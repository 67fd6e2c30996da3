import ElmOnSave.Proofs.EscapingFaults
import ElmOnSave.Proofs.OversizedLines
import ElmOnSave.Proofs.ReportFormat

/-!
# Loading the report of the analyzer

A report is loaded as a whole: there is one diagnostic for each entry of its array, in the order of
the entries, or there are none (`load_eq_ok_iff`).  What goes wrong is a complaint about the report,
with three exceptions that are passed on as they are (`Raises`): the path holds a null character,
the octets of the file are no text, or its JSON text is refused for its size.
`load_whole_or_raises` states both.

The steps are taken apart by `load_eq`: the octets of the file (`Machine.readFile`), their text
(`HoldsText`), and what the text describes (`ofText_eq_ok_iff`, `ofText_eq_error`).
-/

namespace ElmOnSave.AnalyzerReport

open CompilerOutput

/-! ## The text of a report -/

/-- An entry of a report is a table that describes a diagnostic. -/
def Describes (entry : Value) (d : Diagnostic) : Prop :=
  ∃ fields, entry = .table fields ∧ Diagnostic.ofEntries fields = .valid d

lemma readEntry_eq_ok_iff {path : String} {entry : Value} {d : Diagnostic} :
    readEntry path entry = .ok d ↔ Describes entry d := by
  constructor
  · intro h
    unfold readEntry at h
    split at h
    · split at h
      · rename_i hd
        cases h
        exact ⟨_, rfl, Checked.toExcept_eq_ok_iff.1 hd⟩
      · cases h
    · cases h
  · rintro ⟨fields, rfl, hd⟩
    simp only [readEntry, hd, Checked.toExcept]

lemma readEntry_eq_error {path : String} {entry : Value} {f : Fault}
    (h : readEntry path entry = .error f) : ∃ cause, f = .report path cause := by
  unfold readEntry at h
  split at h
  · split at h
    · cases h
    · cases h
      exact ⟨_, rfl⟩
  · cases h
    exact ⟨_, rfl⟩

section Text

variable {path : String} {cs : List Char}

/-- A text is read as diagnostics when it is an array and each of its entries describes one. -/
lemma ofText_eq_ok_iff [Platform] {ds : List Diagnostic} :
    ofText path cs = .ok ds ↔
      ∃ entries, Json.read cs = .ok (.list entries) ∧ List.Forall₂ Describes entries ds := by
  have hentries : ∀ entries : List Value,
      entries.mapM (readEntry path) = .ok ds ↔ List.Forall₂ Describes entries ds := by
    intro entries
    simp only [mapM_eq_ok_iff, readEntry_eq_ok_iff]
  constructor
  · intro h
    unfold ofText at h
    split at h
    · cases h
    · rename_i entries hread
      exact ⟨entries, hread, (hentries entries).1 h⟩
    · cases h
  · rintro ⟨entries, hread, hall⟩
    rw [ofText, hread]
    exact (hentries entries).2 hall

lemma ofText_of_refused [Platform] {f : Json.Fault} (h : Json.read cs = .error f) : ofText path cs =
    .error (Fault.ofJson (fun c p o => .report path (.malformed c p o)) f) := by
  rw [ofText, h]

/-- A text that is refused for its size is refused with that. -/
lemma ofText_of_oversized [Platform] {f : Fault} (h : Oversized cs f) :
    ofText path cs = .error f := by
  cases h with
  | integer refused => exact ofText_of_refused refused
  | nesting refused => exact ofText_of_refused refused

/-- What is wrong with a text is a complaint about the report, unless it is the size. -/
lemma ofText_eq_error [Platform] {f : Fault} (h : ofText path cs = .error f) :
    (∃ cause, f = .report path cause) ∨ Oversized cs f := by
  cases hread : Json.read cs with
  | error jf =>
    rw [ofText_of_refused hread] at h
    cases h
    cases jf with
    | malformed c p o => exact .inl ⟨_, rfl⟩
    | integerTooLong digits =>
      obtain ⟨run, hrun, rfl⟩ := Json.long_of_read hread
      exact .inr (.integer hread hrun)
    | nestedTooDeep => exact .inr (.nesting hread (Json.deep_of_read hread))
  | ok v =>
    rw [ofText, hread] at h
    cases v with
    | list entries =>
      obtain ⟨-, entry, -, -, -, hentry⟩ := mapM_eq_error_iff.1 h
      exact .inl (readEntry_eq_error hentry)
    | _ =>
      cases h
      exact .inl ⟨_, rfl⟩

end Text

/-! ## The file of a report -/

section Load

variable {m : Machine} {path : Path}

/-- A report is loaded from its octets. -/
lemma load_eq [Platform] (m : Machine) (path : Path) :
    load m path = match m.readFile path.text with
      | .error .nullByte => .error .nullByte
      | .error (.system e) => .error (.report path.text (.unreadable ⟨e, path.text⟩))
      | .ok content => match Utf8.decodeStrict content with
        | .error cause => .error (.undecodable cause)
        | .ok cs => ofText path.text (Text.universalNewlines cs) := by
  unfold load Machine.readText Machine.readCharacters Machine.readOctets
  dsimp only
  cases m.readFile path.text with
  | error e => cases e <;> rfl
  | ok content =>
    dsimp only
    cases Utf8.decodeStrict content <;> rfl

/-- A text stands in the file at a path. -/
inductive HoldsText (m : Machine) (path : Path) : List Char → Prop where
  | decoded {content : Octets} {cs : List Char} (octets : m.readFile path.text = .ok content)
      (text : Utf8.decodeStrict content = .ok cs) : HoldsText m path (Text.universalNewlines cs)

lemma load_of_holdsText [Platform] {text : List Char} (h : HoldsText m path text) :
    load m path = ofText path.text text := by
  obtain ⟨octets, htext⟩ := h
  rw [load_eq, octets]
  dsimp only
  rw [htext]

/-- What loading a report raises beside complaints about the report. -/
inductive Raises [Platform] (m : Machine) (path : Path) : Fault → Prop where
  /-- The path holds a null character. -/
  | path (null : nullCharacter ∈ path.text.toList) : Raises m path .nullByte
  /-- The octets of the file are no text. -/
  | octets {content : Octets} {cause : Utf8.Fault} (octets : m.readFile path.text = .ok content)
      (noText : Utf8.decodeStrict content = .error cause) : Raises m path (.undecodable cause)
  /-- An integer in the text has too many digits, or the text is nested too deeply. -/
  | size {text : List Char} {f : Fault} (holds : HoldsText m path text)
      (oversized : Oversized text f) : Raises m path f

lemma Raises.ne_report [Platform] {f : Fault} (h : Raises m path f) (cause : ReportFault) :
    f ≠ .report path.text cause := by
  cases h with
  | path | octets => exact nofun
  | size _ oversized => cases oversized <;> exact nofun

/-- A file cannot be read because of a null character if one stands in its path. -/
lemma readFile_eq_nullByte_iff {path : String} :
    m.readFile path = .error .nullByte ↔ nullCharacter ∈ path.toList := by
  rw [← statFrom_eq_nullByte_iff (m := m) m.cwdNames, Machine.readFile, Machine.stat]
  cases m.statFrom m.cwdNames path with
  | error e => cases e <;> simp [Except.map]
  | ok found =>
    obtain ⟨names, node⟩ := found
    cases node <;> simp [Except.map]

/-- What is raised ends the loading. -/
lemma Raises.load [Platform] {f : Fault} (h : Raises m path f) : load m path = .error f := by
  cases h with
  | path null => rw [load_eq, readFile_eq_nullByte_iff.2 null]
  | octets octets noText =>
    rw [load_eq, octets]
    dsimp only
    rw [noText]
  | size holds oversized => rw [load_of_holdsText holds, ofText_of_oversized oversized]

/-- Where no text stands in the file, there is a complaint about the report, or something that is
raised. -/
lemma holdsText_or_fails [Platform] (m : Machine) (path : Path) : (∃ text, HoldsText m path text) ∨
    ∃ f, load m path = .error f ∧ ((∃ cause, f = .report path.text cause) ∨ Raises m path f) := by
  cases hoctets : m.readFile path.text with
  | error e =>
    refine .inr ?_
    rw [load_eq, hoctets]
    cases e with
    | nullByte => exact ⟨_, rfl, .inr (.path (readFile_eq_nullByte_iff.1 hoctets))⟩
    | system e => exact ⟨_, rfl, .inl ⟨_, rfl⟩⟩
  | ok content =>
    cases htext : Utf8.decodeStrict content with
    | error cause =>
      have hraises : Raises m path (.undecodable cause) := .octets hoctets htext
      exact .inr ⟨_, hraises.load, .inr hraises⟩
    | ok cs => exact .inl ⟨_, .decoded hoctets htext⟩

/-- Loading fails with a complaint about the report, or with something that is raised. -/
lemma load_eq_error [Platform] {f : Fault} (h : load m path = .error f) :
    (∃ cause, f = .report path.text cause) ∨ Raises m path f := by
  rcases holdsText_or_fails m path with ⟨text, holds⟩ | ⟨f', hload, hf'⟩
  · rw [load_of_holdsText holds] at h
    exact (ofText_eq_error h).imp_right (.size holds)
  · rw [hload] at h
    cases h
    exact hf'

/-- Diagnostics are loaded when the text of the file is an array with an entry for each of them. -/
lemma load_eq_ok_iff [Platform] {ds : List Diagnostic} :
    load m path = .ok ds ↔ ∃ text entries, HoldsText m path text ∧
      Json.read text = .ok (.list entries) ∧ List.Forall₂ Describes entries ds := by
  constructor
  · intro h
    rcases holdsText_or_fails m path with ⟨text, holds⟩ | ⟨f, hload, -⟩
    · rw [load_of_holdsText holds] at h
      obtain ⟨entries, hread, hall⟩ := ofText_eq_ok_iff.1 h
      exact ⟨text, entries, holds, hread, hall⟩
    · rw [hload] at h
      cases h
  · rintro ⟨text, entries, holds, hread, hall⟩
    rw [load_of_holdsText holds]
    exact ofText_eq_ok_iff.2 ⟨entries, hread, hall⟩

end Load

/-- **A report is loaded as a whole.**  What is loaded are the diagnostics that the entries of its
array describe, one for each entry and in their order.  Otherwise there is a complaint about the
report, unless one of the causes of `Raises` holds; then it is this cause that comes out. -/
theorem load_whole_or_raises [Platform] (m : Machine) (path : Path) :
    (∀ ds, load m path = .ok ds ↔ ∃ text entries, HoldsText m path text ∧
      Json.read text = .ok (.list entries) ∧ List.Forall₂ Describes entries ds) ∧
    ∀ f, (load m path = .error f ∧ ∀ cause, f ≠ .report path.text cause) ↔ Raises m path f := by
  refine ⟨fun ds => load_eq_ok_iff, fun f => ⟨?_, fun h => ⟨h.load, h.ne_report⟩⟩⟩
  rintro ⟨h, hf⟩
  rcases load_eq_error h with ⟨cause, rfl⟩ | hraises
  · exact absurd rfl (hf cause)
  · exact hraises

/-- A machine whose only file is a report that is one octet, which starts no character. -/
def undecodableReport : Machine :=
  ⟨⟨[(["report.json"], .file [0xff] 0o644 none)]⟩, "/", [], []⟩

/-- Not every report is answered with diagnostics or a complaint about it. -/
theorem not_forall_load_whole :
    ¬ ∀ (m : Machine) (path : Path), (∃ ds, load m path = .ok ds) ∨
      ∃ cause, load m path = .error (.report path.text cause) := by
  intro h
  have hload : load undecodableReport (.ofString "/report.json") =
      .error (.undecodable ⟨[0xff], .invalidStart, 0⟩) := by decide +kernel
  rcases h undecodableReport (.ofString "/report.json") with ⟨ds, hds⟩ | ⟨cause, hcause⟩
  · rw [hload] at hds
    cases hds
  · rw [hload] at hcause
    cases hcause

end ElmOnSave.AnalyzerReport
