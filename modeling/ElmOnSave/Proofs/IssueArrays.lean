import ElmOnSave.Proofs.ReportFormat
import ElmOnSave.Proofs.ReportRoundTrip

/-!
# Issue arrays are told verbatim

An issue array carries a list of diagnostics field by field.  `IsIssueArray` describes the values
that do so from the side of the document: each issue is an object with the seven fields of its
diagnostic, in any order and among fields of other names, and the file may be left out.  The line is
any JSON text of such a value (`Json.Spells`), so blanks, escapes and the order of the fields are of
no account, and `readIssueArray_told` says that the reader of issue arrays yields the diagnostics as
they are, with the compiled file where none is named.

Fields are found by name: `ObjectOf.lookup` says that in an object with the given fields among
others a name of the format is looked up as among the fields alone.
-/

namespace ElmOnSave

namespace Entries

variable {κ ν : Type} [DecidableEq κ]

/-- A key that is always written with one value has that value. -/
lemma get?_ofList {es : List (κ × ν)} {k : κ} {v : ν} (same : ∀ e ∈ es, e.1 = k → e.2 = v) :
    get? (ofList es) k = if k ∈ keys es then some v else none := by
  induction es using List.reverseRecOn with
  | nil => rfl
  | append_singleton es e ih =>
    rw [List.forall_mem_append, List.forall_mem_singleton] at same
    rw [ofList, List.foldl_concat, ← ofList, get?_put, ih same.1]
    by_cases hk : e.1 = k
    · simp [keys, hk, same.2 hk]
    · have hkeys : k ∈ keys (es ++ [e]) ↔ k ∈ keys es := by
        simp [keys, Ne.symm hk]
      rw [if_neg hk]
      simp only [hkeys]

end Entries

namespace CompilerOutput

/-! ## The format -/

/-- An object that is written with the given fields, in any order and among others; none of the
others has a name of the format. -/
def ObjectOf (names : List String) (fields : List (String × Value)) (v : Value) : Prop :=
  ∃ others entries : List (Text × Value), (∀ e ∈ others, ∀ name ∈ names, e.1 ≠ .whole name) ∧
    entries.Perm (fields.map (fun f => (.whole f.1, f.2)) ++ others) ∧
    v = .table (Entries.ofList entries)

/-- The object of a position. -/
def IsPosition (p : Position) (v : Value) : Prop :=
  ObjectOf ["line", "column"] [("line", .int p.line), ("column", .int p.column)] v

/-- The object of a region. -/
def IsRegion (r : Region) (v : Value) : Prop :=
  ∃ start stop, IsPosition r.start start ∧ IsPosition r.stop stop ∧
    ObjectOf ["start", "end"] [("start", start), ("end", stop)] v

/-- The names of the fields of an issue. -/
def issueNames : List String :=
  ["tag", "overview", "subregion", "details", "region", "type", "file"]

/-- A diagnostic as it stands in an array: with or without its file. -/
structure ArrayIssue where
  diagnostic : Diagnostic
  namesFile : Bool

namespace ArrayIssue

/-- The fields of an issue, its region given as a value. -/
def fields (i : ArrayIssue) (region : Value) : List (String × Value) :=
  [("tag", .ofString i.diagnostic.tag), ("overview", .ofString i.diagnostic.overview),
    ("subregion", .ofString i.diagnostic.subregion), ("details", .ofString i.diagnostic.details),
    ("region", region), ("type", .ofString i.diagnostic.type)] ++
    if i.namesFile then [("file", .ofString i.diagnostic.file)] else []

/-- The object of an issue. -/
def IsToldBy (i : ArrayIssue) (v : Value) : Prop :=
  ∃ region, IsRegion i.diagnostic.region region ∧ ObjectOf issueNames (i.fields region) v

/-- The diagnostic of an issue in a run for a target file. -/
def inRun (i : ArrayIssue) (target : String) : Diagnostic :=
  if i.namesFile then i.diagnostic else i.diagnostic.withFile target

end ArrayIssue

/-- The list of the objects of some issues. -/
def IsIssueArray (issues : List ArrayIssue) (v : Value) : Prop :=
  ∃ items, v = .list items ∧ List.Forall₂ ArrayIssue.IsToldBy issues items

/-! ## Fields by name -/

/-- A name of the format is looked up as among the fields alone. -/
lemma ObjectOf.lookup {names : List String} {fields : List (String × Value)} {v : Value}
    (h : ObjectOf names fields v) (distinct : (Entries.keys fields).Nodup) :
    ∃ es, v = .table es ∧
      ∀ name ∈ names, Entries.get? es (.whole name) = Entries.get? fields name := by
  obtain ⟨others, entries, foreign, perm, rfl⟩ := h
  refine ⟨_, rfl, fun name hname => ?_⟩
  have hmem : ∀ w, (Text.whole name, w) ∈ entries ↔ (name, w) ∈ fields := by
    intro w
    have hother : (Text.whole name, w) ∉ others := fun hw => foreign _ hw name hname rfl
    simp [perm.mem_iff, hother]
  have hkey : Text.whole name ∈ Entries.keys entries ↔ name ∈ Entries.keys fields := by
    simp [Entries.keys, hmem]
  cases hfield : Entries.get? fields name with
  | none =>
    have habsent : Text.whole name ∉ Entries.keys entries :=
      fun h => (Entries.get?_eq_none_iff fields name).1 hfield (hkey.1 h)
    have hsame : ∀ e ∈ entries, e.1 = .whole name → e.2 = Value.null :=
      fun e he hname => absurd (List.mem_map.2 ⟨e, he, hname⟩) habsent
    rw [Entries.get?_ofList hsame, if_neg habsent]
  | some w =>
    have hw := (Entries.get?_eq_some_iff distinct).1 hfield
    have hsame : ∀ e ∈ entries, e.1 = .whole name → e.2 = w := by
      rintro ⟨_, w'⟩ he rfl
      have hfield' := (Entries.get?_eq_some_iff distinct).2 ((hmem w').1 he)
      rw [hfield] at hfield'
      exact (Option.some.inj hfield').symm
    rw [Entries.get?_ofList hsame, if_pos (hkey.2 (List.mem_map.2 ⟨_, hw, rfl⟩))]

/-- The compiled file is filled in where no file is named; other fields stay. -/
lemma get?_withTarget (target : String) (es : List (Text × Value)) (name : String) :
    Entries.get? (withTarget target es) (.whole name) =
      if name = "file" then some ((Entries.get? es (.whole "file")).getD (.ofString target))
      else Entries.get? es (.whole name) := by
  unfold withTarget
  by_cases hname : name = "file"
  · subst hname
    split
    · rename_i hfile
      simp [hfile]
    · rename_i hfile
      simp [hfile, Entries.get?_put]
  · rw [if_neg hname]
    split
    · rfl
    · rw [Entries.get?_put, if_neg]
      exact fun h => hname (Text.whole.inj h).symm

/-! ## Reading the parts -/

lemma IsPosition.gives {p : Position} {v : Value} (h : IsPosition p v) : GivesPosition v p := by
  obtain ⟨es, rfl, hget⟩ := h.lookup (by simp [Entries.keys])
  exact ⟨⟨_, hget "line" (by simp), rfl⟩, ⟨_, hget "column" (by simp), rfl⟩⟩

lemma IsRegion.gives {r : Region} {v : Value} (h : IsRegion r v) : GivesRegion v r := by
  obtain ⟨start, stop, isStart, isStop, hobject⟩ := h
  obtain ⟨es, rfl, hget⟩ := hobject.lookup (by simp [Entries.keys])
  exact ⟨⟨start, hget "start" (by simp), isStart.gives⟩,
    ⟨stop, hget "end" (by simp), isStop.gives⟩⟩

namespace ArrayIssue

lemma keys_fields_sublist (i : ArrayIssue) (region : Value) :
    (Entries.keys (i.fields region)).Sublist issueNames := by
  unfold fields
  split
  · exact List.Sublist.refl _
  · exact List.sublist_append_left ["tag", "overview", "subregion", "details", "region", "type"] _

lemma nodup_keys_fields (i : ArrayIssue) (region : Value) :
    (Entries.keys (i.fields region)).Nodup :=
  (i.keys_fields_sublist region).nodup (by simp [issueNames])

lemma get?_file_fields (i : ArrayIssue) (region : Value) :
    Entries.get? (i.fields region) "file" =
      if i.namesFile then some (.ofString i.diagnostic.file) else none := by
  unfold fields
  split <;> simp [Entries.get?]

/-- **An issue is told as its diagnostic.** -/
lemma readIssue_eq (target line : String) {i : ArrayIssue} {v : Value} (h : i.IsToldBy v) :
    readIssue target line v = .ok (i.inRun target) := by
  obtain ⟨region, isRegion, hobject⟩ := h
  obtain ⟨es, rfl, hget⟩ := hobject.lookup (i.nodup_keys_fields region)
  have hother : ∀ name, name ∈ issueNames ∧ name ≠ "file" →
      Entries.get? (withTarget target es) (.whole name) =
        Entries.get? (i.fields region) name := by
    rintro name ⟨hname, hne⟩
    rw [get?_withTarget, if_neg hne, hget name hname]
  have htext : ∀ (name : String) (default? : Option String) {s : String},
      name ∈ issueNames ∧ name ≠ "file" →
      Entries.get? (i.fields region) name = some (.ofString s) →
      Value.scalarField (withTarget target es) name default? Value.asString = .valid s :=
    fun name default? _ hname hs =>
      scalarField_eq_valid default? ((hother name hname).trans hs) rfl
  have hregion : Value.field (withTarget target es) "region" (some Region.whole) Region.ofValue =
      .valid i.diagnostic.region :=
    field_eq_valid _ ((hother "region" (by decide)).trans rfl)
      (ofValue_eq_valid_iff_givesRegion.2 isRegion.gives)
  have hfile : Value.scalarField (withTarget target es) "file" none Value.asString =
      .valid (i.inRun target).file := by
    refine scalarField_eq_valid none (w := .ofString (i.inRun target).file) ?_ rfl
    rw [get?_withTarget, if_pos rfl, hget "file" (by decide), get?_file_fields]
    unfold inRun
    split <;> rfl
  have hread : Diagnostic.ofEntries (withTarget target es) = .valid (i.inRun target) := by
    rw [Diagnostic.ofEntries, htext "tag" (some "error") (by decide) rfl,
      htext "overview" (some "") (by decide) rfl, htext "subregion" (some "") (by decide) rfl,
      htext "details" (some "") (by decide) rfl, hregion,
      htext "type" (some Severity.error.label) (by decide) rfl, hfile]
    unfold inRun
    split <;> rfl
  rw [readIssue, hread]
  rfl

end ArrayIssue

end CompilerOutput

/-! ## Issues that are written -/

/-- A position as an object. -/
def Position.toValue (p : Position) : Value :=
  .object [("line", .int p.line), ("column", .int p.column)]

/-- A region as an object. -/
def Region.toValue (r : Region) : Value :=
  .object [("start", r.start.toValue), ("end", r.stop.toValue)]

/-- The lines and columns of a region. -/
def Region.coordinates (r : Region) : List Int :=
  [r.start.line, r.start.column, r.stop.line, r.stop.column]

section Spellable

variable {limits : Json.Limits} {depth : Nat} (fits : limits.depth depth)

include fits

lemma Position.spellable_toValue {p : Position}
    (line : limits.digits (Text.natDigits p.line.natAbs).length)
    (column : limits.digits (Text.natDigits p.column.natAbs).length) :
    Json.Spellable limits depth p.toValue := by
  refine Value.spellable_object fits (by simp [Entries.keys]) ?_
  simp only [List.forall_mem_cons, List.not_mem_nil, false_implies, implies_true, and_true]
  exact ⟨.int line, .int column⟩

lemma Region.spellable_toValue {r : Region} (inside : limits.depth (depth + 1))
    (digits : ∀ c ∈ r.coordinates, limits.digits (Text.natDigits c.natAbs).length) :
    Json.Spellable limits depth r.toValue := by
  simp only [coordinates, List.forall_mem_cons, List.not_mem_nil, false_implies, implies_true,
    and_true] at digits
  obtain ⟨startLine, startColumn, stopLine, stopColumn⟩ := digits
  refine Value.spellable_object fits (by simp [Entries.keys]) ?_
  simp only [List.forall_mem_cons, List.not_mem_nil, false_implies, implies_true, and_true]
  exact ⟨Position.spellable_toValue inside startLine startColumn,
    Position.spellable_toValue inside stopLine stopColumn⟩

end Spellable

namespace CompilerOutput

/-- An issue as an object, other fields in front. -/
def ArrayIssue.toValue (others : List (String × Value)) (i : ArrayIssue) : Value :=
  .object (others ++ i.fields i.diagnostic.region.toValue)

/-- An object holds the fields that are written for it. -/
lemma objectOf_object {names : List String} (others : List (String × Value))
    {fields : List (String × Value)} (distinct : (Entries.keys (others ++ fields)).Nodup)
    (foreign : ∀ f ∈ others, f.1 ∉ names) :
    ObjectOf names fields (.object (others ++ fields)) := by
  refine ⟨others.map (fun f => (.whole f.1, f.2)), (others ++ fields).map
    (fun f => (.whole f.1, f.2)), ?_, ?_, ?_⟩
  · rintro e he name hname heq
    obtain ⟨f, hf, rfl⟩ := List.mem_map.1 he
    obtain rfl := Text.whole.inj heq
    exact foreign f hf hname
  · rw [List.map_append]
    exact List.perm_append_comm
  · have hkeys : (Entries.keys ((others ++ fields).map fun f => (Text.whole f.1, f.2))).Nodup := by
      have hnodup := distinct.map (f := Text.whole) fun _ _ h => Text.whole.inj h
      simpa [Entries.keys, Function.comp_def] using hnodup
    rw [Entries.ofList_eq_self hkeys, Value.object]

lemma isPosition_toValue (p : Position) : IsPosition p p.toValue :=
  objectOf_object [] (by simp [Entries.keys]) nofun

lemma isRegion_toValue (r : Region) : IsRegion r r.toValue :=
  ⟨_, _, isPosition_toValue r.start, isPosition_toValue r.stop,
    objectOf_object [] (by simp [Entries.keys]) nofun⟩

section Others

variable {others : List (String × Value)} (distinct : (Entries.keys others).Nodup)
  (foreign : ∀ f ∈ others, f.1 ∉ issueNames)

include distinct foreign

lemma nodup_keys_others_append (i : ArrayIssue) (region : Value) :
    (Entries.keys (others ++ i.fields region)).Nodup := by
  rw [Entries.keys, List.map_append, List.nodup_append]
  refine ⟨distinct, i.nodup_keys_fields region, ?_⟩
  rintro _ hother _ hfield rfl
  obtain ⟨f, hf, rfl⟩ := List.mem_map.1 hother
  exact foreign f hf ((i.keys_fields_sublist region).subset hfield)

lemma isToldBy_toValue (i : ArrayIssue) : i.IsToldBy (i.toValue others) :=
  ⟨_, isRegion_toValue _,
    objectOf_object others (nodup_keys_others_append distinct foreign i _) foreign⟩

lemma isIssueArray_toValue (issues : List ArrayIssue) :
    IsIssueArray issues (.list (issues.map (ArrayIssue.toValue others))) := by
  refine ⟨_, rfl, ?_⟩
  rw [List.forall₂_map_right_iff, List.forall₂_same]
  exact fun i _ => isToldBy_toValue distinct foreign i

/-- What is written for issues on one line is a text of the array. -/
lemma spells_toValue {limits : Json.Limits} {issues : List ArrayIssue}
    (depths : ∀ depth < 4, limits.depth depth)
    (digits : ∀ i ∈ issues, ∀ c ∈ i.diagnostic.region.coordinates,
      limits.digits (Text.natDigits c.natAbs).length)
    (spellable : ∀ f ∈ others, Json.Spellable limits 2 f.2) :
    Json.Spells limits (.list (issues.map (ArrayIssue.toValue others)))
      (Json.compact (.list (issues.map (ArrayIssue.toValue others)))) := by
  have hissue : ∀ i ∈ issues, Json.Spellable limits 1 (i.toValue others) := by
    intro i hi
    have hregion : Json.Spellable limits 2 i.diagnostic.region.toValue :=
      Region.spellable_toValue (depths 2 (by decide)) (depths 3 (by decide)) (digits i hi)
    have htext : ∀ s, Json.Spellable limits 2 (.ofString s) := .text 2
    refine Value.spellable_object (depths 1 (by decide))
      (nodup_keys_others_append distinct foreign i _) ?_
    rw [List.forall_mem_append]
    refine ⟨spellable, ?_⟩
    unfold ArrayIssue.fields
    split <;> simp [htext, hregion]
  have harray : Json.Spellable limits 0 (.list (issues.map (ArrayIssue.toValue others))) := by
    refine .list (depths 0 (by decide)) ?_
    rw [List.forall_mem_map]
    exact hissue
  exact ⟨.none, .none, _, harray.spelling_compact, by simp [Json.Blanks.none]⟩

end Others

/-! ## Lines -/

/-- The text of a list starts with its bracket. -/
lemma exists_cons_of_spelling {limits : Json.Limits} {depth : Nat} {items : List Value}
    {cs : List Char} (h : Json.Spelling limits depth (.list items) cs) :
    ∃ rest, cs = '[' :: rest := by
  generalize hv : Value.list items = v at h
  cases h with
  | constant _ mem =>
    subst hv
    simp [Json.constants] at mem
  | number _ n =>
    unfold Json.Numeral.value at hv
    split at hv <;> cases hv
  | string => cases hv
  | emptyList => exact ⟨_, rfl⟩
  | list => exact ⟨_, rfl⟩
  | emptyObject => cases hv
  | object => cases hv

/-- A line that holds a list is not the banner of a successful run. -/
lemma not_banner_of_spells {limits : Json.Limits} {items : List Value} {cs : List Char}
    (h : Json.Spells limits (.list items) cs) : successBanner.toList.isPrefixOf cs = false := by
  obtain ⟨before, after, text, spelled, rfl⟩ := h
  obtain ⟨rest, rfl⟩ := exists_cons_of_spelling spelled
  have hfirst : ∀ c ∈ (before.chars ++ ('[' :: rest ++ after.chars)).head?, c ≠ 'S' := by
    cases hbefore : before.chars with
    | nil =>
      rintro _ ⟨⟩
      decide
    | cons c chars =>
      have hc := before.blank c (by simp [hbefore])
      rintro _ ⟨⟩ rfl
      cases hc
  rw [Bool.eq_false_iff, ne_eq, List.isPrefixOf_iff_prefix]
  rintro ⟨more, hmore⟩
  rw [← hmore] at hfirst
  exact hfirst 'S' rfl rfl

/-- **Issue arrays are told verbatim.**  Of a line that carries diagnostics as an issue array, in
any JSON text the reader admits, the diagnostics are read as they are and in their order, for every
target file; an issue that names no file is told of the target file and otherwise unchanged. -/
theorem readIssueArray_told [Platform] (target : String) {issues : List ArrayIssue} {v : Value}
    {line : String} (array : IsIssueArray issues v) (spelled : Json.Spells .reader v line.toList) :
    readIssueArray target line = .ok (issues.map fun i => i.inRun target) := by
  obtain ⟨items, rfl, told⟩ := array
  have hread := spelled.read
  have hline : readLine line = .ok (.list items) := by
    rw [readLine, hread]
    rfl
  have hissues : items.mapM (readIssue target line) = .ok (issues.map fun i => i.inRun target) := by
    rw [mapM_eq_ok_iff, List.forall₂_map_right_iff]
    exact told.flip.imp fun _ _ h => ArrayIssue.readIssue_eq target line h
  rw [readIssueArray, not_banner_of_spells spelled, Json.isBlankText_of_read hread, hline]
  exact hissues

/-- Two issues: a warning with its file, and an error without. -/
def namedAndUnnamed : List ArrayIssue :=
  [⟨⟨"unused import", "\"é\"", "", "a\n\tb", ⟨⟨3, 1⟩, ⟨3, 20⟩⟩, "warning", "src/Other.elm"⟩, true⟩,
    ⟨⟨"TYPE MISMATCH", "😀", "List", "", ⟨⟨1, 2⟩, ⟨1, 5⟩⟩, "error", ""⟩, false⟩]

lemma isWritable_namedAndUnnamed :
    ∀ i ∈ namedAndUnnamed, ∀ c ∈ i.diagnostic.region.coordinates, Decimal.isWritable c = true := by
  have hsmall : ∀ i ∈ namedAndUnnamed, ∀ c ∈ i.diagnostic.region.coordinates,
      c.natAbs < Nat.pow 10 2 := by decide
  intro i hi c hc
  exact Decimal.isWritable_of_lt (hsmall i hi c hc) (by decide)

/-- The issues with a field more. -/
def hintedArray : Value :=
  .list (namedAndUnnamed.map (ArrayIssue.toValue [("hint", .ofString "\\")]))

theorem hintedArray_told :
    IsIssueArray namedAndUnnamed hintedArray ∧
      Json.Spells .reader hintedArray (String.ofList (Json.compact hintedArray)).toList ∧
      readIssueArray "Main.elm" (String.ofList (Json.compact hintedArray)) =
        .ok [⟨"unused import", "\"é\"", "", "a\n\tb", ⟨⟨3, 1⟩, ⟨3, 20⟩⟩, "warning",
            "src/Other.elm"⟩,
          ⟨"TYPE MISMATCH", "😀", "List", "", ⟨⟨1, 2⟩, ⟨1, 5⟩⟩, "error", "Main.elm"⟩] := by
  have distinct : (Entries.keys [("hint", Value.ofString "\\")]).Nodup := by simp [Entries.keys]
  have foreign : ∀ f ∈ [("hint", Value.ofString "\\")], f.1 ∉ issueNames := by
    simp [issueNames]
  have array : IsIssueArray namedAndUnnamed hintedArray :=
    isIssueArray_toValue distinct foreign namedAndUnnamed
  have spelled : Json.Spells .reader hintedArray
      (String.ofList (Json.compact hintedArray)).toList := by
    rw [String.toList_ofList]
    refine spells_toValue distinct foreign (fun depth hdepth => ?_) ?_ ?_
    · exact Nat.lt_trans hdepth (by decide)
    · exact fun i hi c hc =>
        (Json.length_natDigits_le_iff c).2 (isWritable_namedAndUnnamed i hi c hc)
    · rw [List.forall_mem_singleton]
      exact .text 2 "\\"
  exact ⟨array, spelled, readIssueArray_told "Main.elm" array spelled⟩

/-- A number with too many digits in the first field of the first issue is refused. -/
lemma read_of_long_field [Platform] {i : Int} (long : Decimal.isWritable i = false)
    {rest : List Char} (ends : Json.Ends rest) :
    Json.read ('[' :: '\x7b' :: '"' :: 'n' :: '"' :: ':' :: (Value.intText i ++ rest)) =
      .error (.integerTooLong (Text.natDigits i.natAbs).length) := by
  have hlong : Decimal.digitLimit < (Text.natDigits i.natAbs).length := by
    rw [← Nat.not_le, Json.length_natDigits_le_iff, long]
    exact Bool.false_ne_true
  have name : Json.StringBody ['n'.toNat] ['n'] :=
    .plain (by decide) (by decide) (by decide) .nil
  have room : 1 < Platform.jsonNesting := Nat.lt_of_lt_of_le (by decide) Platform.reportFits
  have hlist : ∀ pos, Json.Stage.feed ⟨[], .value⟩ .openArray pos =
      .ok ⟨[.array []], .valueOrClose⟩ :=
    Json.Stage.Wants.feed_openArray (.inl rfl) (Nat.zero_lt_of_lt room)
  have hobject : ∀ pos, Json.Stage.feed ⟨[.array []], .valueOrClose⟩ .openObject pos =
      .ok ⟨[.object [] default, .array []], .nameOrClose⟩ :=
    Json.Stage.Wants.feed_openObject (.inr rfl) room
  rw [← Json.Numeral.written_ofInt]
  refine Json.Stage.Reads.read_long (.mark rfl rfl hlist (.mark rfl rfl hobject ?_))
  refine Json.Stage.Reads.string name (fun _ => rfl) (.mark rfl rfl (fun _ => rfl) ?_)
  exact Json.Stage.Reads.longNumber (.ofInt i) rfl hlong ends fun _ => rfl

/-- The issues with an integer more in front. -/
def numberedArray (i : Int) : Value :=
  .list (namedAndUnnamed.map (ArrayIssue.toValue [("n", .int i)]))

/-- The integer comes first on the line. -/
lemma compact_numberedArray (i : Int) :
    ∃ rest, Json.Ends rest ∧ Json.compact (numberedArray i) =
      '[' :: '\x7b' :: '"' :: 'n' :: '"' :: ':' :: (Value.intText i ++ rest) := by
  have hcomma : ∃ tail, Json.compact (numberedArray i) =
      '[' :: '\x7b' :: '"' :: 'n' :: '"' :: ':' :: (Value.intText i ++ ',' :: tail) := by
    simp only [numberedArray, namedAndUnnamed, ArrayIssue.toValue, ArrayIssue.fields, Value.object,
      List.map_cons, List.cons_append, List.nil_append, Json.compact, Json.compactItems,
      Json.compactEntries, List.append_assoc]
    exact ⟨_, rfl⟩
  obtain ⟨tail, htail⟩ := hcomma
  exact ⟨',' :: tail, Json.ends_cons (.inr (.inl rfl)) tail, htail⟩

/-- The line of an array may be too much for the reader although the coordinates are short. -/
theorem not_forall_readIssueArray_told :
    ¬ ∀ (target : String) (issues : List ArrayIssue) (v : Value) (line : String),
      IsIssueArray issues v →
      (∀ i ∈ issues, ∀ c ∈ i.diagnostic.region.coordinates, Decimal.isWritable c = true) →
      Json.Spells .none v line.toList →
      readIssueArray target line = .ok (issues.map fun i => i.inRun target) := by
  intro h
  obtain ⟨n, long⟩ : ∃ n : Int, Decimal.isWritable n = false := by
    obtain ⟨m, hm⟩ : ∃ m, m = Nat.pow 10 Decimal.digitLimit := ⟨_, rfl⟩
    refine ⟨(m : Int), ?_⟩
    rw [Bool.eq_false_iff, ne_eq, Decimal.isWritable_iff, Int.natAbs_natCast, ← hm]
    exact Nat.lt_irrefl m
  have distinct : (Entries.keys [("n", Value.int n)]).Nodup := by simp [Entries.keys]
  have foreign : ∀ f ∈ [("n", Value.int n)], f.1 ∉ issueNames := by simp [issueNames]
  have spelled : Json.Spells .none (numberedArray n)
      (String.ofList (Json.compact (numberedArray n))).toList := by
    rw [String.toList_ofList]
    refine spells_toValue distinct foreign (fun _ _ => trivial) (fun _ _ _ _ => trivial) ?_
    rw [List.forall_mem_singleton]
    exact .int trivial
  have htold := h "Main.elm" namedAndUnnamed _ _
    (isIssueArray_toValue distinct foreign namedAndUnnamed) isWritable_namedAndUnnamed spelled
  obtain ⟨rest, ends, hcompact⟩ := compact_numberedArray n
  have hread := read_of_long_field long ends
  rw [← hcompact] at hread
  have hblank : Text.isBlankText (Json.compact (numberedArray n)) = false := by
    rw [hcompact]
    rfl
  rw [readIssueArray, not_banner_of_spells spelled, readLine, String.toList_ofList, hblank,
    hread] at htold
  cases htold

end CompilerOutput

end ElmOnSave
