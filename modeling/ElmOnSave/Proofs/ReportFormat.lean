import ElmOnSave.Json.Writer
import ElmOnSave.Proofs.FailingSteps
import ElmOnSave.Proofs.JsonReading
import ElmOnSave.Proofs.ShortRegions

/-!
# The format of report documents

What the reader of report documents takes is described here from the side of the document: a
`Report` is an object whose fields have the kinds that its type asks for, down to the last problem
of the last group, and `Yields` says what diagnostics it stands for.  What a region gives
(`GivesRegion`), what a message says (`FlattenedText`) and what counts as nothing are relations of
their own.  All they share with the reader is how the value of a coordinate spells an integer
(`Value.asInt`) and the notation of a value that is no text (`Value.inspect`).  The result
`readReportDocument_accepts_iff` says that the reader takes a decoded line exactly when it holds a
report, and then yields what the report stands for.

Each step of the reader has a lemma that says when it succeeds and with what, from a region
(`ofValue_eq_valid_iff_givesRegion`), a title (`titleOf_eq_valid_iff`) and a message
(`flattenedText_iff`) over a problem (`readProblem_eq_valid_iff`) and a group
(`readGroup_eq_ok_iff`) to all groups (`readCompileErrors_eq_ok_iff`).  Reading a list item by item
becomes `List.Forall₂` (`mapM_eq_ok_iff`), so that the order of the diagnostics and their number are
facts about lists.
-/

namespace ElmOnSave.CompilerOutput

/-! ## The format -/

/-- An object. -/
def IsObject (v : Value) : Prop :=
  ∃ entries, v = .table entries

/-- A text. -/
def IsText (v : Value) : Prop :=
  ∃ t, v = .text t

/-- The items of an optional list. -/
def listed : Option Value → List Value
  | some (.list items) => items
  | _ => []

/-- An optional list whose items have a property: the field is missing, null or such a list. -/
structure OptionalList (P : Value → Prop) (field : Option Value) : Prop where
  shape : field = none ∨ field = some .null ∨ ∃ items, field = some (.list items)
  items : ∀ item ∈ listed field, P item

/-- A value gives a position: it has a line and a column, and both spell integers. -/
structure GivesPosition (value : Value) (p : Position) : Prop where
  line : ∃ line ∈ value.get? "line", line.asInt = .ok p.line
  column : ∃ column ∈ value.get? "column", column.asInt = .ok p.column

/-- A value gives a region: it has a start and an end, and both give positions. -/
structure GivesRegion (value : Value) (r : Region) : Prop where
  start : ∃ start ∈ value.get? "start", GivesPosition start r.start
  stop : ∃ stop ∈ value.get? "end", GivesPosition stop r.stop

/-- A problem: an object with a region, and with a text for a title if it has one. -/
structure Problem (problem : Value) : Prop where
  object : IsObject problem
  title : ∀ title ∈ problem.get? "title", IsText title
  region : ∃ value ∈ problem.get? "region", ∃ region, GivesRegion value region

/-- A group of problems: an object that names its file if it has a problem. -/
structure ProblemGroup (group : Value) : Prop where
  object : IsObject group
  problems : OptionalList Problem (group.get? "problems")
  path : listed (group.get? "problems") ≠ [] → IsText (group.getD "path")

/-- A value counts as nothing: null, false, zero and whatever is empty. -/
inductive CountsAsNothing : Value → Prop where
  | null : CountsAsNothing .null
  | no : CountsAsNothing (.bool false)
  | zero : CountsAsNothing (.int 0)
  | zeroFloat (negative : Bool) (exponent : Int) :
      CountsAsNothing (.float (.finite negative 0 exponent))
  | emptyText {t : Text} (empty : t.points = []) : CountsAsNothing (.text t)
  | emptyList : CountsAsNothing (.list [])
  | emptyTable : CountsAsNothing (.table [])

/-- The type of a report. -/
def HasKind (report : Value) (kind : String) : Prop :=
  report.get? "type" = some (.ofString kind)

/-- A report: an object with the fields its type asks for. -/
structure Report (report : Value) : Prop where
  object : IsObject report
  errors : HasKind report compileErrors → OptionalList ProblemGroup (report.get? "errors")
  title : HasKind report projectError → ∀ title ∈ report.get? "title", IsText title
  path : HasKind report projectError →
    CountsAsNothing (report.getD "path") ∨ IsText (report.getD "path")

/-! ## What a report stands for -/

/-- The text of a title, empty when there is none. -/
inductive TitleText : Option Value → String → Prop where
  | missing : TitleText none ""
  | text (t : Text) : TitleText (some (.text t)) t.shown

/-- The text of a part of a message. -/
inductive PartText : Value → List Char → Prop where
  | plain (t : Text) : PartText (.text t) t.shown.toList
  /-- A fragment stands between marks. -/
  | fragment {part : Value} {t : Text} (payload : part.get? "string" = some (.text t)) :
      PartText part ('#' :: (t.shown.toList ++ ['#']))
  | emptyFragment {part : Value} (object : IsObject part) (payload : part.get? "string" = none) :
      PartText part ['#', '#']
  | oddFragment {part odd : Value} (payload : part.get? "string" = some odd)
      (notText : ¬ IsText odd) : PartText part ('#' :: (odd.inspect ++ ['#']))
  /-- Anything else is shown in its notation. -/
  | other {part : Value} (notText : ¬ IsText part) (notObject : ¬ IsObject part) :
      PartText part part.inspect

/-- The text of a message: that of its parts, in order. -/
inductive FlattenedText : Value → List Char → Prop where
  | none : FlattenedText .null []
  | plain (t : Text) : FlattenedText (.text t) t.shown.toList
  | parts {parts : List Value} {texts : List (List Char)}
      (told : List.Forall₂ PartText parts texts) : FlattenedText (.list parts) texts.flatten
  /-- A message that is no sequence is shown in its notation. -/
  | other {message : Value} (notNull : message ≠ .null) (notText : ¬ IsText message)
      (notList : ∀ items, message ≠ .list items) : FlattenedText message message.inspect

/-- The diagnostic of a problem in a file. -/
structure TellsProblem (path problem : Value) (d : Diagnostic) : Prop where
  tag : d.tag = "error"
  overview : TitleText (problem.get? "title") d.overview
  subregion : d.subregion = ""
  details : FlattenedText (problem.getD "message") d.details.toList
  region : ∃ value ∈ problem.get? "region", GivesRegion value d.region
  type : d.type = "error"
  file : ∃ t, path = .text t ∧ d.file = t.shown

/-- The diagnostic of a report on a whole project, compiled for a target file. -/
structure TellsProject (target : String) (report : Value) (d : Diagnostic) : Prop where
  tag : d.tag = "error"
  overview : TitleText (report.get? "title") d.overview
  subregion : d.subregion = ""
  details : FlattenedText (report.getD "message") d.details.toList
  region : d.region = ⟨⟨1, 1⟩, ⟨1, 1⟩⟩
  type : d.type = "error"
  file : (CountsAsNothing (report.getD "path") ∧ d.file = target) ∨
    (¬ CountsAsNothing (report.getD "path") ∧
      ∃ t, report.getD "path" = .text t ∧ d.file = t.shown)

/-- The problems of a report in order, each with the path of its group. -/
def problemsOf (report : Value) : List (Value × Value) :=
  (listed (report.get? "errors")).flatMap fun group =>
    (listed (group.get? "problems")).map fun problem => (group.getD "path", problem)

/-- The number of problems of a group. -/
def problemCount (group : Value) : Nat :=
  (listed (group.get? "problems")).length

/-- The diagnostics a report stands for. -/
inductive Yields (target : String) (report : Value) : List Diagnostic → Prop where
  /-- One for each problem, in order. -/
  | compileErrors {ds : List Diagnostic} (kind : HasKind report compileErrors)
      (problems : List.Forall₂ (fun p d => TellsProblem p.1 p.2 d) (problemsOf report) ds)
      (count : ds.length = ((listed (report.get? "errors")).map problemCount).sum) :
      Yields target report ds
  /-- One for the project. -/
  | projectError {d : Diagnostic} (kind : HasKind report projectError)
      (project : TellsProject target report d) : Yields target report [d]
  /-- Nothing for a report of any other type. -/
  | other (notErrors : ¬ HasKind report CompilerOutput.compileErrors)
      (notProject : ¬ HasKind report CompilerOutput.projectError) : Yields target report []

/-! ## The steps of the reader -/

lemma asObject_eq_ok_iff {line field : String} {v w : Value} :
    asObject line field v = .ok w ↔ IsObject v ∧ w = v := by
  constructor
  · intro h
    cases v <;> cases h
    exact ⟨⟨_, rfl⟩, rfl⟩
  · rintro ⟨⟨entries, rfl⟩, rfl⟩
    rfl

/-- A missing field is read like null, and null like an empty list. -/
lemma asList_eq_ok_iff {line field : String} {v : Value} {key : String} {items : List Value} :
    asList line field (v.getD key) = .ok items ↔
      OptionalList (fun _ => True) (v.get? key) ∧ items = listed (v.get? key) := by
  unfold Value.getD
  constructor
  · intro h
    cases hkey : v.get? key with
    | none =>
      rw [hkey] at h
      cases h
      exact ⟨⟨.inl rfl, fun _ _ => trivial⟩, rfl⟩
    | some w =>
      rw [hkey] at h
      cases w <;> cases h
      · exact ⟨⟨.inr (.inl rfl), fun _ _ => trivial⟩, rfl⟩
      · exact ⟨⟨.inr (.inr ⟨_, rfl⟩), fun _ _ => trivial⟩, rfl⟩
  · rintro ⟨⟨hshape, -⟩, rfl⟩
    rcases hshape with hkey | hkey | ⟨items, hkey⟩
    · rw [hkey]; rfl
    · rw [hkey]; rfl
    · rw [hkey]; rfl

lemma asString_eq_ok_iff {v : Value} {s : String} :
    v.asString = .ok s ↔ ∃ t, v = .text t ∧ s = t.shown := by
  constructor
  · intro h
    cases v <;> cases h
    exact ⟨_, rfl, rfl⟩
  · rintro ⟨t, rfl, rfl⟩
    rfl

lemma accept_eq_ok_iff {line : String} {x : Checked Diagnostic} {d : Diagnostic} :
    accept line x = .ok d ↔ x = .valid d := by
  constructor
  · exact accept_eq_ok
  · rintro rfl
    rfl

lemma titleOf_eq_valid_iff {v : Value} {s : String} :
    titleOf v = .valid s ↔ TitleText (v.get? "title") s := by
  unfold titleOf
  constructor
  · intro h
    split at h
    · rename_i hkey
      cases h
      rw [hkey]
      exact .missing
    · rename_i title hkey
      obtain ⟨t, rfl, rfl⟩ :=
        asString_eq_ok_iff.1 (Checked.ofExcept_eq_valid (Checked.within_eq_valid h))
      rw [hkey]
      exact .text t
  · intro h
    generalize v.get? "title" = title at h ⊢
    cases h with
    | missing => rfl
    | text t => rfl

lemma exists_titleText_iff {title : Option Value} :
    (∃ s, TitleText title s) ↔ ∀ t ∈ title, IsText t := by
  constructor
  · rintro ⟨s, h⟩
    cases h with
    | missing => exact nofun
    | text t =>
      rintro _ ⟨⟩
      exact ⟨t, rfl⟩
  · intro h
    cases title with
    | none => exact ⟨"", .missing⟩
    | some v =>
      obtain ⟨t, rfl⟩ := h v rfl
      exact ⟨t.shown, .text t⟩

lemma isNothing_iff {v : Value} : isNothing v = true ↔ CountsAsNothing v := by
  constructor
  · intro h
    cases v with
    | null => exact .null
    | bool b =>
      obtain rfl : b = false := by simpa [isNothing] using h
      exact .no
    | int i =>
      obtain rfl : i = 0 := by simpa [isNothing] using h
      exact .zero
    | float x =>
      cases x with
      | finite negative m exponent =>
        obtain rfl : m = 0 := by simpa [isNothing, Binary64.isZero] using h
        exact .zeroFloat negative exponent
      | _ => cases h
    | text t =>
      refine .emptyText ?_
      cases t <;> simpa [isNothing, Text.points] using h
    | moment => cases h
    | list items =>
      obtain rfl : items = [] := by simpa [isNothing] using h
      exact .emptyList
    | table entries =>
      obtain rfl : entries = [] := by simpa [isNothing] using h
      exact .emptyTable
  · intro h
    cases h with
    | @emptyText t empty => cases t <;> simpa [isNothing, Text.points] using empty
    | _ => rfl

/-! ## Regions -/

section Fields

variable {α : Type} {es : List (Text × Value)} {name : String} {w : Value} {a : α}
  (default? : Option α)

/-- A field that is there is read whatever its default. -/
lemma field_eq_valid {check : Value → Checked α} (present : Entries.get? es (.whole name) = some w)
    (valid : check w = .valid a) : Value.field es name default? check = .valid a := by
  simp only [Value.field, present, valid]
  rfl

lemma scalarField_eq_valid {read : Value → Except Mismatch α}
    (present : Entries.get? es (.whole name) = some w) (ok : read w = .ok a) :
    Value.scalarField es name default? read = .valid a := by
  refine field_eq_valid default? present ?_
  rw [ok]
  rfl

/-- A field that must be there is read if its value is. -/
lemma field_none_eq_valid_iff {check : Value → Checked α} :
    Value.field es name none check = .valid a ↔
      ∃ v ∈ Value.get? (.table es) name, check v = .valid a := by
  constructor
  · intro h
    exact (Value.field_eq_valid h).resolve_right nofun
  · rintro ⟨v, present, valid⟩
    exact field_eq_valid none present valid

lemma scalarField_none_eq_valid_iff {read : Value → Except Mismatch α} :
    Value.scalarField es name none read = .valid a ↔
      ∃ v ∈ Value.get? (.table es) name, read v = .ok a := by
  constructor
  · intro h
    obtain ⟨v, present, valid⟩ := field_none_eq_valid_iff.1 h
    exact ⟨v, present, Checked.ofExcept_eq_valid valid⟩
  · rintro ⟨v, present, ok⟩
    exact scalarField_eq_valid none present ok

end Fields

lemma ofValue_eq_valid_iff_givesPosition {v : Value} {p : Position} :
    Position.ofValue v = .valid p ↔ GivesPosition v p := by
  unfold Position.ofValue
  constructor
  · intro h
    cases v with
    | table es =>
      obtain ⟨_, column, hmk, hcolumn, rfl⟩ := Checked.seq_eq_valid h
      obtain ⟨line, hline, rfl⟩ := Checked.map_eq_valid hmk
      exact ⟨scalarField_none_eq_valid_iff.1 hline, scalarField_none_eq_valid_iff.1 hcolumn⟩
    | _ => cases h
  · rintro ⟨hline, hcolumn⟩
    cases v with
    | table es =>
      simp only [Value.asTable, scalarField_none_eq_valid_iff.2 hline,
        scalarField_none_eq_valid_iff.2 hcolumn]
      rfl
    | _ => obtain ⟨line, ⟨⟩, -⟩ := hline

lemma ofValue_eq_valid_iff_givesRegion {v : Value} {r : Region} :
    Region.ofValue v = .valid r ↔ GivesRegion v r := by
  have hfield : ∀ {es : List (Text × Value)} {name : String} {p : Position},
      Value.field es name none Position.ofValue = .valid p ↔
        ∃ w ∈ Value.get? (.table es) name, GivesPosition w p := by
    intro es name p
    simp only [field_none_eq_valid_iff, ofValue_eq_valid_iff_givesPosition]
  unfold Region.ofValue
  constructor
  · intro h
    cases v with
    | table es =>
      obtain ⟨_, stop, hmk, hstop, rfl⟩ := Checked.seq_eq_valid h
      obtain ⟨start, hstart, rfl⟩ := Checked.map_eq_valid hmk
      exact ⟨hfield.1 hstart, hfield.1 hstop⟩
    | _ => cases h
  · rintro ⟨hstart, hstop⟩
    cases v with
    | table es =>
      simp only [Value.asTable, hfield.2 hstart, hfield.2 hstop]
      rfl
    | _ => obtain ⟨start, ⟨⟩, -⟩ := hstart

/-- A missing region is read like null, which gives none. -/
lemma ofValue_getD_eq_valid_iff {v : Value} {key : String} {r : Region} :
    Region.ofValue (v.getD key) = .valid r ↔ ∃ value ∈ v.get? key, GivesRegion value r := by
  rw [ofValue_eq_valid_iff_givesRegion, Value.getD]
  cases v.get? key with
  | none =>
    refine iff_of_false ?_ ?_
    · rintro ⟨⟨start, ⟨⟩, -⟩, -⟩
    · rintro ⟨value, ⟨⟩, -⟩
  | some value => simp

/-! ## Messages -/

lemma exists_entries {v w : Value} {key : String} (h : v.get? key = some w) :
    ∃ entries, v = .table entries ∧ Entries.get? entries (.whole key) = some w := by
  cases v with
  | table entries => exact ⟨entries, rfl, h⟩
  | _ => cases h

lemma partText_iff {part : Value} {text : List Char} :
    PartText part text ↔ partText part = text := by
  constructor
  · intro h
    cases h with
    | plain t => rfl
    | fragment payload =>
      obtain ⟨entries, rfl, hget⟩ := exists_entries payload
      rw [partText, hget]
      rfl
    | emptyFragment object payload =>
      obtain ⟨entries, rfl⟩ := object
      have hget : Entries.get? entries (.whole "string") = none := payload
      rw [partText, hget]
      rfl
    | @oddFragment _ odd payload notText =>
      obtain ⟨entries, rfl, hget⟩ := exists_entries payload
      rw [partText, hget]
      cases odd with
      | text t => exact absurd ⟨t, rfl⟩ notText
      | _ => rfl
    | other notText notObject =>
      cases part with
      | text t => exact absurd ⟨t, rfl⟩ notText
      | table entries => exact absurd ⟨entries, rfl⟩ notObject
      | _ => rfl
  · rintro rfl
    cases part with
    | text t => exact .plain t
    | table entries =>
      rw [partText]
      cases hget : Entries.get? entries (.whole "string") with
      | none => exact .emptyFragment ⟨entries, rfl⟩ hget
      | some payload =>
        cases payload with
        | text t => exact .fragment hget
        | _ => exact .oddFragment hget (by rintro ⟨_, ⟨⟩⟩)
    | _ => exact .other (by rintro ⟨_, ⟨⟩⟩) (by rintro ⟨_, ⟨⟩⟩)

lemma forall₂_partText_iff {parts : List Value} {texts : List (List Char)} :
    List.Forall₂ PartText parts texts ↔ parts.map partText = texts := by
  rw [← List.forall₂_eq_eq_eq, List.forall₂_map_left_iff]
  exact ⟨fun h => h.imp fun _ _ => partText_iff.1, fun h => h.imp fun _ _ => partText_iff.2⟩

lemma flattenedText_iff {message : Value} {details : String} :
    FlattenedText message details.toList ↔ details = String.ofList (messageText message) := by
  rw [← String.toList_inj, String.toList_ofList]
  generalize details.toList = text
  constructor
  · intro h
    cases h with
    | none => rfl
    | plain t => rfl
    | parts told => rw [← forall₂_partText_iff.1 told, messageText, List.flatMap_def]
    | other notNull notText notList =>
      cases message with
      | null => exact absurd rfl notNull
      | text t => exact absurd ⟨t, rfl⟩ notText
      | list items => exact absurd rfl (notList items)
      | _ => rfl
  · rintro rfl
    cases message with
    | null => exact .none
    | text t => exact .plain t
    | list parts =>
      rw [messageText, List.flatMap_def]
      exact .parts (forall₂_partText_iff.2 rfl)
    | _ => exact .other nofun (by rintro ⟨_, ⟨⟩⟩) nofun

/-! ## Problems, groups and projects -/

lemma readProblem_eq_valid_iff {path problem : Value} {d : Diagnostic} :
    readProblem path problem = .valid d ↔ TellsProblem path problem d := by
  constructor
  · intro h
    obtain ⟨_, file, hmk, hfile, rfl⟩ := Checked.seq_eq_valid h
    obtain ⟨_, region, hoverview, hregion, rfl⟩ := Checked.seq_eq_valid hmk
    obtain ⟨overview, htitle, rfl⟩ := Checked.map_eq_valid hoverview
    obtain ⟨t, hpath, hshown⟩ :=
      asString_eq_ok_iff.1 (Checked.ofExcept_eq_valid (Checked.within_eq_valid hfile))
    exact ⟨rfl, titleOf_eq_valid_iff.1 htitle, rfl, flattenedText_iff.2 rfl,
      ofValue_getD_eq_valid_iff.1 (Checked.within_eq_valid hregion), rfl, t, hpath, hshown⟩
  · intro h
    obtain ⟨tag, overview, subregion, details, region, type, file⟩ := d
    obtain ⟨rfl, htitle, rfl, hdetails, hregion, rfl, t, rfl, rfl⟩ := h
    obtain rfl := flattenedText_iff.1 hdetails
    rw [readProblem, titleOf_eq_valid_iff.2 htitle, ofValue_getD_eq_valid_iff.2 hregion]
    rfl

lemma readProblemEntry_eq_ok_iff {line : String} {path problem : Value} {d : Diagnostic} :
    readProblemEntry line path problem = .ok d ↔
      IsObject problem ∧ TellsProblem path problem d := by
  simp only [readProblemEntry_eq, bind_eq_ok_iff, asObject_eq_ok_iff, accept_eq_ok_iff,
    readProblem_eq_valid_iff, and_assoc, exists_and_left, exists_eq_left]

/-- A problem can be told when it is one and its file is known. -/
lemma exists_tellsProblem_iff {path problem : Value} :
    (∃ d, IsObject problem ∧ TellsProblem path problem d) ↔ Problem problem ∧ IsText path := by
  constructor
  · rintro ⟨d, hobject, h⟩
    obtain ⟨t, hpath, -⟩ := h.file
    obtain ⟨value, hvalue, hregion⟩ := h.region
    exact ⟨⟨hobject, exists_titleText_iff.1 ⟨_, h.overview⟩, value, hvalue, _, hregion⟩, t, hpath⟩
  · rintro ⟨⟨hobject, htitle, value, hvalue, region, hregion⟩, t, rfl⟩
    obtain ⟨overview, htitle⟩ := exists_titleText_iff.2 htitle
    refine ⟨⟨"error", overview, "", String.ofList (messageText (problem.getD "message")), region,
      "error", t.shown⟩, hobject, rfl, htitle, rfl, flattenedText_iff.2 rfl,
      ⟨value, hvalue, hregion⟩, rfl, t, rfl, rfl⟩

lemma readGroup_eq_ok_iff {line : String} {group : Value} {ds : List Diagnostic} :
    readGroup line group = .ok ds ↔
      IsObject group ∧ OptionalList (fun _ => True) (group.get? "problems") ∧
        List.Forall₂ (fun p d => IsObject p ∧ TellsProblem (group.getD "path") p d)
          (listed (group.get? "problems")) ds := by
  simp only [readGroup_eq, bind_eq_ok_iff, asObject_eq_ok_iff, asList_eq_ok_iff, mapM_eq_ok_iff,
    readProblemEntry_eq_ok_iff, and_assoc, exists_and_left, exists_eq_left]

lemma exists_readGroup_iff {line : String} {group : Value} :
    (∃ ds, readGroup line group = .ok ds) ↔ ProblemGroup group := by
  constructor
  · rintro ⟨ds, hds⟩
    obtain ⟨hobject, hshape, htold⟩ := readGroup_eq_ok_iff.1 hds
    have hitems : ∀ p ∈ listed (group.get? "problems"), Problem p ∧ IsText (group.getD "path") :=
      fun p hp => exists_tellsProblem_iff.1 (exists_forall₂_iff.1 ⟨ds, htold⟩ p hp)
    refine ⟨hobject, ⟨hshape.shape, fun p hp => (hitems p hp).1⟩, fun hsome => ?_⟩
    obtain ⟨p, hp⟩ := List.exists_mem_of_ne_nil _ hsome
    exact (hitems p hp).2
  · rintro ⟨hobject, hproblems, hpath⟩
    obtain ⟨ds, htold⟩ := exists_forall₂_iff.2 fun p hp =>
      exists_tellsProblem_iff.2 ⟨hproblems.items p hp, hpath (List.ne_nil_of_mem hp)⟩
    have hshape := hproblems.shape
    exact ⟨ds, readGroup_eq_ok_iff.2 ⟨hobject, ⟨hshape, fun _ _ => trivial⟩, htold⟩⟩

lemma readCompileErrors_eq_ok_iff {line : String} {report : Value} {ds : List Diagnostic} :
    readCompileErrors line report = .ok ds ↔
      OptionalList (fun _ => True) (report.get? "errors") ∧
        ∃ dss, List.Forall₂ (fun g ds => readGroup line g = .ok ds)
          (listed (report.get? "errors")) dss ∧ dss.flatten = ds := by
  simp only [readCompileErrors_eq, bind_eq_ok_iff, map_eq_ok_iff, asList_eq_ok_iff,
    mapM_eq_ok_iff, and_assoc, exists_and_left, exists_eq_left]

lemma exists_readCompileErrors_iff {line : String} {report : Value} :
    (∃ ds, readCompileErrors line report = .ok ds) ↔
      OptionalList ProblemGroup (report.get? "errors") := by
  simp only [readCompileErrors_eq_ok_iff, exists_and_left]
  constructor
  · rintro ⟨hshape, ds, dss, hgroups, -⟩
    refine ⟨hshape.shape, fun group hgroup => ?_⟩
    exact exists_readGroup_iff.1 (exists_forall₂_iff.1 ⟨dss, hgroups⟩ group hgroup)
  · rintro ⟨hshape, hitems⟩
    obtain ⟨dss, hgroups⟩ := exists_forall₂_iff.2 fun group hgroup =>
      exists_readGroup_iff.2 (hitems group hgroup)
    exact ⟨⟨hshape, fun _ _ => trivial⟩, dss.flatten, dss, hgroups, rfl⟩

/-- The groups are read in order, and within each its problems. -/
lemma forall₂_problemsOf {line : String} {report : Value} {ds : List Diagnostic}
    (h : readCompileErrors line report = .ok ds) :
    List.Forall₂ (fun p d => TellsProblem p.1 p.2 d) (problemsOf report) ds := by
  obtain ⟨-, dss, hgroups, rfl⟩ := readCompileErrors_eq_ok_iff.1 h
  rw [problemsOf, List.flatMap_def]
  refine List.rel_flatten ?_
  rw [List.forall₂_map_left_iff]
  refine hgroups.imp fun group ds hgroup => ?_
  obtain ⟨-, -, hproblems⟩ := readGroup_eq_ok_iff.1 hgroup
  rw [List.forall₂_map_left_iff]
  exact hproblems.imp fun problem d hproblem => hproblem.2

lemma length_problemsOf (report : Value) :
    (problemsOf report).length = ((listed (report.get? "errors")).map problemCount).sum := by
  simp only [problemsOf, List.length_flatMap, List.length_map]
  rfl

lemma readProjectError_eq_valid_iff {target : String} {report : Value} {d : Diagnostic} :
    readProjectError target report = .valid d ↔ TellsProject target report d := by
  constructor
  · intro h
    obtain ⟨_, file, hoverview, hfile, rfl⟩ := Checked.seq_eq_valid h
    obtain ⟨overview, htitle, rfl⟩ := Checked.map_eq_valid hoverview
    obtain ⟨t, hpath, hshown⟩ :=
      asString_eq_ok_iff.1 (Checked.ofExcept_eq_valid (Checked.within_eq_valid hfile))
    refine ⟨rfl, titleOf_eq_valid_iff.1 htitle, rfl, flattenedText_iff.2 rfl, rfl, rfl, ?_⟩
    split at hpath
    · rename_i hnothing
      cases hpath
      exact .inl ⟨isNothing_iff.1 hnothing, hshown⟩
    · rename_i hsome
      exact .inr ⟨mt isNothing_iff.2 hsome, t, hpath, hshown⟩
  · intro h
    obtain ⟨tag, overview, subregion, details, region, type, file⟩ := d
    obtain ⟨rfl, htitle, rfl, hdetails, rfl, rfl, hfile⟩ := h
    obtain rfl := flattenedText_iff.1 hdetails
    rw [readProjectError, titleOf_eq_valid_iff.2 htitle]
    rcases hfile with ⟨hnothing, rfl⟩ | ⟨hsome, t, hpath, rfl⟩
    · rw [if_pos (isNothing_iff.2 hnothing)]
      rfl
    · rw [if_neg (mt isNothing_iff.1 hsome), hpath]
      rfl

/-- A project can be told when its title is a text and its path is one or is nothing. -/
lemma exists_tellsProject_iff {target : String} {report : Value} :
    (∃ d, TellsProject target report d) ↔
      (∀ title ∈ report.get? "title", IsText title) ∧
        (CountsAsNothing (report.getD "path") ∨ IsText (report.getD "path")) := by
  constructor
  · rintro ⟨d, h⟩
    refine ⟨exists_titleText_iff.1 ⟨_, h.overview⟩, ?_⟩
    rcases h.file with ⟨hnothing, -⟩ | ⟨-, t, hpath, -⟩
    · exact .inl hnothing
    · exact .inr ⟨t, hpath⟩
  · rintro ⟨htitle, hpath⟩
    obtain ⟨overview, htitle⟩ := exists_titleText_iff.2 htitle
    obtain ⟨file, hfile⟩ : ∃ file, (CountsAsNothing (report.getD "path") ∧ file = target) ∨
        (¬ CountsAsNothing (report.getD "path") ∧
          ∃ t, report.getD "path" = .text t ∧ file = t.shown) := by
      by_cases hnothing : CountsAsNothing (report.getD "path")
      · exact ⟨target, .inl ⟨hnothing, rfl⟩⟩
      · obtain ⟨t, ht⟩ := hpath.resolve_left hnothing
        exact ⟨t.shown, .inr ⟨hnothing, t, ht, rfl⟩⟩
    exact ⟨Diagnostic.ofProject overview (String.ofList (messageText (report.getD "message"))) file,
      rfl, htitle, rfl, flattenedText_iff.2 rfl, rfl, rfl, hfile⟩

/-! ## Reports -/

lemma hasKind_iff {report : Value} {kind : String} :
    HasKind report kind ↔ report.getD "type" = .text (.whole kind) := by
  unfold HasKind Value.getD
  cases report.get? "type" <;> simp [Value.ofString]

lemma not_projectError {report : Value} (h : HasKind report compileErrors) :
    ¬ HasKind report projectError := by
  intro hproject
  rw [HasKind] at h hproject
  rw [h] at hproject
  revert hproject
  simp [Value.ofString, compileErrors, projectError]

lemma readReport_of_compileErrors {target line : String} {report : Value}
    (h : HasKind report compileErrors) :
    readReport target line report = readCompileErrors line report := by
  rw [readReport, hasKind_iff.1 h]
  rfl

lemma readReport_of_projectError {target line : String} {report : Value}
    (h : HasKind report projectError) :
    readReport target line report =
      (accept line (readProjectError target report)).map fun d => [d] := by
  rw [readReport, hasKind_iff.1 h]
  rfl

lemma readReport_of_other {target line : String} {report : Value}
    (herrors : ¬ HasKind report compileErrors) (hproject : ¬ HasKind report projectError) :
    readReport target line report = .ok [] := by
  rw [hasKind_iff] at herrors hproject
  unfold readReport
  split
  · rename_i kind htype
    rw [if_neg (by rintro rfl; exact herrors htype), if_neg (by rintro rfl; exact hproject htype)]
  · rfl

/-- An object is read as a report when it is one, and then as what it stands for. -/
lemma readReport_accepts_iff (target line : String) {report : Value} (object : IsObject report) :
    ((∃ ds, readReport target line report = .ok ds) ↔ Report report) ∧
      ∀ ds, readReport target line report = .ok ds → Yields target report ds := by
  by_cases herrors : HasKind report compileErrors
  · rw [readReport_of_compileErrors herrors, exists_readCompileErrors_iff]
    have hproject := not_projectError herrors
    refine ⟨⟨fun h => ⟨object, fun _ => h, fun h => absurd h hproject, fun h => absurd h hproject⟩,
      fun h => h.errors herrors⟩, fun ds hds => ?_⟩
    have hproblems := forall₂_problemsOf hds
    exact .compileErrors herrors hproblems (hproblems.length_eq ▸ length_problemsOf report)
  · by_cases hproject : HasKind report projectError
    · rw [readReport_of_projectError hproject]
      simp only [map_eq_ok_iff, accept_eq_ok_iff, readProjectError_eq_valid_iff]
      refine ⟨⟨?_, fun h => ?_⟩, ?_⟩
      · rintro ⟨_, d, hd, -⟩
        obtain ⟨htitle, hpath⟩ := exists_tellsProject_iff.1 ⟨d, hd⟩
        exact ⟨object, fun h => absurd h herrors, fun _ => htitle, fun _ => hpath⟩
      · obtain ⟨d, hd⟩ := exists_tellsProject_iff.2 ⟨h.title hproject, h.path hproject⟩
        exact ⟨[d], d, hd, rfl⟩
      · rintro _ ⟨d, hd, rfl⟩
        exact .projectError hproject hd
    · rw [readReport_of_other herrors hproject]
      refine ⟨⟨fun _ => ⟨object, fun h => absurd h herrors, fun h => absurd h hproject,
        fun h => absurd h hproject⟩, fun _ => ⟨[], rfl⟩⟩, ?_⟩
      rintro _ ⟨⟩
      exact .other herrors hproject

/-! ## Lines that decode -/

/-- **The reader of report documents takes exactly the format, and yields what it stands for.**
The texts of diagnostics consist of characters throughout.  Half of a surrogate pair, which an
escape may name without the other half, is told as the replacement character (`Text.shown`). -/
theorem readReportDocument_accepts_iff [Platform] (target : String) {line : String} {v : Value}
    (decodes : Json.read line.toList = .ok v) :
    ((∃ ds, readReportDocument target line = .ok ds) ↔ Report v) ∧
      ∀ ds, readReportDocument target line = .ok ds → Yields target v ds := by
  have hline : readLine line = .ok v := by
    rw [readLine, decodes]
    rfl
  by_cases hobject : IsObject v
  · have hread : readReportDocument target line = readReport target line v := by
      rw [readReportDocument, Json.isBlankText_of_read decodes, hline]
      obtain ⟨entries, rfl⟩ := hobject
      rfl
    rw [hread]
    exact readReport_accepts_iff target line hobject
  · have hrefused : ∀ ds, readReportDocument target line ≠ .ok ds := by
      intro ds
      rw [readReportDocument, Json.isBlankText_of_read decodes, hline]
      cases v with
      | table entries => exact absurd ⟨entries, rfl⟩ hobject
      | _ => rintro ⟨⟩
    refine ⟨⟨?_, fun h => absurd h.object hobject⟩, fun ds hds => absurd hds (hrefused ds)⟩
    rintro ⟨ds, hds⟩
    exact absurd hds (hrefused ds)

/-- A report with one problem, which has no title. -/
def untitledReport : Value :=
  .table [("type", .ofString compileErrors), ("errors", .list [.table [("path", .ofString "A.elm"),
    ("problems", .list [.table [
      ("region", .table [
        ("start", .table [("line", .int 1), ("column", .int 2)]),
        ("end", .table [("line", .int 3), ("column", .int 4)])]),
      ("message", .list [.ofString "not ", .table [("string", .ofString "Int")]])]])]])]

/-- The report on one line. -/
def untitledLine : String :=
  String.ofList (Json.compact untitledReport)

set_option maxRecDepth 20000 in
theorem untitled_report_is_told :
    Json.read untitledLine.toList = .ok untitledReport ∧ Report untitledReport ∧
      Yields "Main.elm" untitledReport
        [⟨"error", "", "", "not #Int#", ⟨⟨1, 2⟩, ⟨3, 4⟩⟩, "error", "A.elm"⟩] := by
  have decodes : Json.read untitledLine.toList = .ok untitledReport := by
    rw [untitledLine, String.toList_ofList]
    rfl
  have told : readReportDocument "Main.elm" untitledLine =
      .ok [⟨"error", "", "", "not #Int#", ⟨⟨1, 2⟩, ⟨3, 4⟩⟩, "error", "A.elm"⟩] := by
    rw [readReportDocument, Json.isBlankText_of_read decodes, readLine, decodes]
    rfl
  obtain ⟨accepted, yielded⟩ := readReportDocument_accepts_iff "Main.elm" decodes
  exact ⟨decodes, accepted.1 ⟨_, told⟩, yielded _ told⟩

end ElmOnSave.CompilerOutput
