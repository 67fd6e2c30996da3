import ElmOnSave.Proofs.JsonRoundTrip
import ElmOnSave.Report

/-!
# The JSON report loses nothing

The report is one value, written by `Json.pretty`, so `read_reportText` is `Json.read_pretty` at the
published collections: what is read back is the same value with the names of every object in order.
`Published.ofValue?` then takes the value apart field by field, and the rest of this module shows
that it finds what `Published.toValue` put there.

Order is what the report does not keep.  The names of collections and their locations come back in
increasing order of code points (`Published.ofValue?_sorted`, with `Register.inOrder`), while the
records of a location are a list and keep theirs.  The fields of a record are found by name
(`Value.get?_sorted_object`), so their order in the text is of no account.
-/

namespace ElmOnSave

/-! ## Fields by name -/

/-- Fields in the order in which an object is written. -/
def sortFields {ν : Type} (fields : List (String × ν)) : List (String × ν) :=
  fields.mergeSort fun a b => Json.nameLe (.whole a.1) (.whole b.1)

lemma sortFields_perm {ν : Type} (fields : List (String × ν)) : (sortFields fields).Perm fields :=
  List.mergeSort_perm _ _

lemma keys_sortFields_perm {ν : Type} (fields : List (String × ν)) :
    (Entries.keys (sortFields fields)).Perm (Entries.keys fields) :=
  (sortFields_perm fields).map Prod.fst

lemma sortFields_map {ν μ : Type} (f : ν → μ) (fields : List (String × ν)) :
    sortFields (fields.map fun e => (e.1, f e.2)) = (sortFields fields).map fun e => (e.1, f e.2) :=
  (List.map_mergeSort (f := fun e : String × ν => (e.1, f e.2)) fun _ _ _ _ => rfl).symm

namespace Value

/-- An object with its names in order. -/
lemma sorted_object (fields : List (String × Value)) :
    Json.sorted (object fields) =
      object ((sortFields fields).map fun f => (f.1, Json.sorted f.2)) := by
  rw [object, Json.sorted, Json.sortedEntries_eq_map, Json.sortEntries, ← sortFields_map, object,
    sortFields, List.map_mergeSort, List.map_map, List.map_map]
  · rfl
  · exact fun _ _ _ _ => rfl

lemma get?_object (fields : List (String × Value)) (name : String) :
    (object fields).get? name = Entries.get? fields name := by
  show Entries.get? _ (Text.whole name) = _
  induction fields with
  | nil => rfl
  | cons f fields ih =>
    rw [List.map_cons, Entries.get?, Entries.get?]
    simp only [Text.whole.injEq]
    split
    · rfl
    · exact ih

/-- Putting the names of an object in order leaves each name its value. -/
lemma get?_sorted_object {fields : List (String × Value)} (h : (Entries.keys fields).Nodup)
    (name : String) :
    (Json.sorted (object fields)).get? name = (Entries.get? fields name).map Json.sorted := by
  have hnodup : (Entries.keys (sortFields fields)).Nodup :=
    (keys_sortFields_perm fields).nodup_iff.2 h
  rw [sorted_object, get?_object, Entries.get?_map,
    Entries.get?_perm (sortFields_perm fields) hnodup]

lemma spellable_object {limits : Json.Limits} {depth : Nat} {fields : List (String × Value)}
    (fits : limits.depth depth) (distinct : (Entries.keys fields).Nodup)
    (spellable : ∀ f ∈ fields, Json.Spellable limits (depth + 1) f.2) :
    Json.Spellable limits depth (object fields) := by
  refine .table fits (fun e he => ?_) ?_ fun e he => ?_
  · obtain ⟨f, -, rfl⟩ := List.mem_map.1 he
    exact ⟨f.1, rfl⟩
  · have hkeys : Entries.keys (fields.map fun f => (Text.whole f.1, f.2)) =
        (Entries.keys fields).map Text.whole := by
      simp [Entries.keys, Function.comp_def]
    rw [hkeys]
    exact distinct.map fun _ _ h => Text.whole.inj h
  · obtain ⟨f, hf, rfl⟩ := List.mem_map.1 he
    exact spellable f hf

end Value

/-! ## Reading the parts of a report -/

/-- The place an object names. -/
def EditorPosition.ofValue? (v : Value) : Option EditorPosition :=
  match v.get? "line", v.get? "character" with
  | some (.int line), some (.int character) => some ⟨line, character⟩
  | _, _ => none

/-- The range an object names. -/
def EditorRange.ofValue? (v : Value) : Option EditorRange := do
  let start ← EditorPosition.ofValue? (← v.get? "start")
  let stop ← EditorPosition.ofValue? (← v.get? "end")
  return ⟨start, stop⟩

/-- The level with a number. -/
def EditorSeverity.ofNumber? (n : Int) : Option EditorSeverity :=
  EditorSeverity.all.find? fun s => s.number = n

/-- The record an object names. -/
def EditorRecord.ofValue? (v : Value) : Option EditorRecord := do
  let range ← EditorRange.ofValue? (← v.get? "range")
  match v.get? "message", v.get? "severity", v.get? "source" with
  | some (.text (.whole message)), some (.int number), some (.text (.whole source)) =>
    return ⟨range, message, ← EditorSeverity.ofNumber? number, some source⟩
  | some (.text (.whole message)), some (.int number), some .null =>
    return ⟨range, message, ← EditorSeverity.ofNumber? number, none⟩
  | _, _, _ => none

/-- The records of a list. -/
def recordsOfValue? : Value → Option (List EditorRecord)
  | .list items => items.mapM EditorRecord.ofValue?
  | _ => none

/-- An object as a register, its values read one by one. -/
def Register.ofValue? {ν : Type} (read : Value → Option ν) : Value → Option (Register String ν)
  | .table entries => do
    let fields ← entries.mapM fun e => do return (← e.1.toString?, ← read e.2)
    if h : (Entries.keys fields).Nodup then some ⟨fields, h⟩ else none
  | _ => none

/-- The published collections a report holds. -/
def Published.ofValue? (v : Value) : Option Published :=
  Register.ofValue? (Register.ofValue? recordsOfValue?) v

lemma EditorSeverity.ofNumber?_number (s : EditorSeverity) :
    EditorSeverity.ofNumber? s.number = some s := by
  cases s <;> rfl

lemma EditorPosition.ofValue?_sorted (p : EditorPosition) :
    EditorPosition.ofValue? (Json.sorted p.toValue) = some p := by
  rw [EditorPosition.ofValue?, EditorPosition.toValue]
  simp [Value.get?_sorted_object, Entries.keys, Entries.get?, Json.sorted]

lemma EditorRange.ofValue?_sorted (r : EditorRange) :
    EditorRange.ofValue? (Json.sorted r.toValue) = some r := by
  rw [EditorRange.ofValue?, EditorRange.toValue]
  simp [Value.get?_sorted_object, Entries.keys, Entries.get?, EditorPosition.ofValue?_sorted]

lemma EditorRecord.ofValue?_sorted (r : EditorRecord) :
    EditorRecord.ofValue? (Json.sorted r.toValue) = some r := by
  obtain ⟨range, message, severity, source⟩ := r
  rw [EditorRecord.ofValue?, EditorRecord.toValue]
  cases source <;>
    simp [Value.get?_sorted_object, Entries.keys, Entries.get?, EditorRange.ofValue?_sorted,
      Json.sorted, Value.ofString, EditorSeverity.ofNumber?_number]

lemma recordsOfValue?_sorted (rs : List EditorRecord) :
    recordsOfValue? (Json.sorted (.list (rs.map EditorRecord.toValue))) = some rs := by
  rw [Json.sorted, Json.sortedItems_eq_map, recordsOfValue?]
  induction rs with
  | nil => rfl
  | cons r rs ih =>
    rw [List.map_cons, List.map_cons, List.mapM_cons, EditorRecord.ofValue?_sorted, ih]
    rfl

/-! ## Registers with their names in order -/

namespace Register

/-- The same entries in the order of their names. -/
def inOrder {ν : Type} (r : Register String ν) : Register String ν :=
  ⟨sortFields r.entries, (keys_sortFields_perm r.entries).nodup_iff.2 r.nodup⟩

/-- Every value changed in the same way. -/
def mapValues {ν μ : Type} (f : ν → μ) (r : Register String ν) : Register String μ :=
  ⟨r.entries.map fun e => (e.1, f e.2), by
    simpa [Entries.keys, Function.comp_def] using r.nodup⟩

lemma keys_inOrder_perm {ν : Type} (r : Register String ν) : r.inOrder.keys.Perm r.keys :=
  keys_sortFields_perm r.entries

@[simp] lemma get?_inOrder {ν : Type} (r : Register String ν) (name : String) :
    r.inOrder.get? name = r.get? name :=
  Entries.get?_perm (sortFields_perm r.entries) r.inOrder.nodup name

@[simp] lemma keys_mapValues {ν μ : Type} (f : ν → μ) (r : Register String ν) :
    (r.mapValues f).keys = r.keys := by
  simp [mapValues, keys, Entries.keys, Function.comp_def]

@[simp] lemma get?_mapValues {ν μ : Type} (f : ν → μ) (r : Register String ν) (name : String) :
    (r.mapValues f).get? name = (r.get? name).map f :=
  Entries.get?_map f r.entries name

@[simp] lemma mapValues_id {ν : Type} (r : Register String ν) : r.mapValues id = r := by
  refine ext ?_
  simp [mapValues]

/-- A register written as an object is read back with its names in order, if its values are. -/
lemma ofValue?_sorted {ν μ : Type} {read : Value → Option μ} {toValue : ν → Value} {f : ν → μ}
    (hread : ∀ x, read (Json.sorted (toValue x)) = some (f x)) (r : Register String ν) :
    ofValue? read (Json.sorted (.object (r.entries.map fun e => (e.1, toValue e.2)))) =
      some (r.mapValues f).inOrder := by
  have hfields : ∀ fields : List (String × ν),
      ((fields.map fun e => (Text.whole e.1, Json.sorted (toValue e.2))).mapM fun e =>
        (do return (← e.1.toString?, ← read e.2) : Option (String × μ))) =
      some (fields.map fun e => (e.1, f e.2)) := by
    intro fields
    induction fields with
    | nil => rfl
    | cons e fields ih =>
      rw [List.map_cons, List.mapM_cons, ih]
      simp [hread]
  have hentries : (r.mapValues f).inOrder.entries =
      (sortFields r.entries).map fun e => (e.1, f e.2) := sortFields_map f r.entries
  rw [Value.sorted_object, sortFields_map, List.map_map, Value.object, List.map_map]
  simp only [ofValue?, Function.comp_def]
  rw [hfields]
  simp only [Option.bind_eq_bind, Option.bind_some]
  rw [dif_pos (hentries ▸ (r.mapValues f).inOrder.nodup)]
  exact congrArg some (Register.ext hentries.symm)

end Register

namespace Published

/-- The report holds the published collections with all names in order. -/
lemma ofValue?_sorted (p : Published) :
    ofValue? (Json.sorted p.toValue) = some (p.mapValues Register.inOrder).inOrder := by
  have hrecords : ∀ rs : List EditorRecord,
      recordsOfValue? (Json.sorted (.list (rs.map EditorRecord.toValue))) = some (id rs) :=
    recordsOfValue?_sorted
  have hfiles : ∀ files : Register String (List EditorRecord),
      Register.ofValue? recordsOfValue? (Json.sorted (.object (files.entries.map fun f =>
        (f.1, .list (f.2.map EditorRecord.toValue))))) = some files.inOrder := fun files => by
    rw [Register.ofValue?_sorted hrecords, Register.mapValues_id]
  exact Register.ofValue?_sorted hfiles p

end Published

/-! ## The whole report -/

/-- Every number of a range has at most `Decimal.digitLimit` digits. -/
def EditorRange.Short (r : EditorRange) : Prop :=
  ∀ i ∈ [r.start.line, r.start.character, r.stop.line, r.stop.character],
    Decimal.isWritable i = true

/-- The limits admit every number of a range. -/
def EditorRange.Fits (limits : Json.Limits) (r : EditorRange) : Prop :=
  ∀ i ∈ [r.start.line, r.start.character, r.stop.line, r.stop.character],
    limits.digits (Text.natDigits i.natAbs).length

lemma EditorRange.Short.fits [Platform] {r : EditorRange} (h : r.Short) : r.Fits .reader :=
  fun i hi => (Json.length_natDigits_le_iff i).2 (h i hi)

section Spellable

variable {limits : Json.Limits} {depth : Nat} (room : limits.depth depth)

include room

lemma EditorPosition.spellable_toValue {p : EditorPosition}
    (line : limits.digits (Text.natDigits p.line.natAbs).length)
    (character : limits.digits (Text.natDigits p.character.natAbs).length) :
    Json.Spellable limits depth p.toValue := by
  refine Value.spellable_object room (by simp [Entries.keys]) ?_
  simp only [List.forall_mem_cons, List.not_mem_nil, false_implies, implies_true, and_true]
  exact ⟨.int line, .int character⟩

lemma EditorRange.spellable_toValue {r : EditorRange} (fits : r.Fits limits)
    (inside : limits.depth (depth + 1)) : Json.Spellable limits depth r.toValue := by
  simp only [EditorRange.Fits, List.forall_mem_cons, List.not_mem_nil, false_implies,
    implies_true, and_true] at fits
  obtain ⟨startLine, startCharacter, stopLine, stopCharacter⟩ := fits
  refine Value.spellable_object room (by simp [Entries.keys]) ?_
  simp only [List.forall_mem_cons, List.not_mem_nil, false_implies, implies_true, and_true]
  exact ⟨EditorPosition.spellable_toValue inside startLine startCharacter,
    EditorPosition.spellable_toValue inside stopLine stopCharacter⟩

lemma EditorRecord.spellable_toValue {r : EditorRecord} (fits : r.range.Fits limits)
    (digit : limits.digits 1) (range : limits.depth (depth + 1))
    (position : limits.depth (depth + 2)) : Json.Spellable limits depth r.toValue := by
  have hseverity : (Text.natDigits (r.severity.number : Int).natAbs).length = 1 := by
    cases r.severity <;> decide
  refine Value.spellable_object room (by simp [Entries.keys]) ?_
  simp only [List.forall_mem_cons, List.not_mem_nil, false_implies, implies_true, and_true]
  refine ⟨EditorRange.spellable_toValue range fits position, .text _ _,
    .int (hseverity ▸ digit), ?_⟩
  cases r.source with
  | none => exact .null _
  | some s => exact .text _ s

end Spellable

/-- The report is told by what is written for it, if its numbers are admitted. -/
lemma Published.spellable_toValue {limits : Json.Limits} (room : ∀ depth ≤ 5, limits.depth depth)
    (digit : limits.digits 1) {p : Published} (fits : ∀ r ∈ p.records, r.range.Fits limits) :
    Json.Spellable limits 0 p.toValue := by
  refine Value.spellable_object (room 0 (by decide))
    (by simpa [Entries.keys, Function.comp_def] using p.nodup) fun c hc => ?_
  obtain ⟨⟨name, files⟩, hfiles, rfl⟩ := List.mem_map.1 hc
  refine Value.spellable_object (room 1 (by decide))
    (by simpa [Entries.keys, Function.comp_def] using files.nodup) fun f hf => ?_
  obtain ⟨⟨location, rs⟩, hrs, rfl⟩ := List.mem_map.1 hf
  refine .list (room 2 (by decide)) fun v hv => ?_
  obtain ⟨r, hr, rfl⟩ := List.mem_map.1 hv
  have hr : r ∈ p.records := by
    simp only [records, Register.values, List.mem_flatMap, List.mem_map, List.mem_flatten]
    exact ⟨files, ⟨_, hfiles, rfl⟩, rs, ⟨_, hrs, rfl⟩, hr⟩
  exact EditorRecord.spellable_toValue (room 3 (by decide)) (fits r hr) digit (room 4 (by decide))
    (room 5 (by decide))

/-- The report of records with short numbers is read back. -/
lemma Published.readable_toValue [Platform] {p : Published}
    (short : ∀ r ∈ p.records, r.range.Short) :
    Json.Readable 0 p.toValue :=
  have digit : 1 ≤ Decimal.digitLimit := by decide
  spellable_toValue (fun depth hdepth => Nat.lt_of_le_of_lt hdepth Platform.reportFits) digit
    fun r hr => (short r hr).fits

/-- The report is read as the value of the collections, with the names of all objects in order. -/
theorem Published.read_reportText [Platform] {p : Published}
    (short : ∀ r ∈ p.records, r.range.Short) :
    Json.read p.reportText.toList = .ok (Json.sorted p.toValue) := by
  rw [reportText, String.toList_ofList]
  exact Json.read_pretty (readable_toValue short)

/-- **The report loses nothing.**  Whatever characters stand in names, locations, messages and
sources, the text of the report is read as a value that holds the same collections, under each of
them the same locations, and at each location the same records in the same order.  Names and texts
are strings of characters: half of a surrogate pair is none, and in a diagnostic that was read the
replacement character already stands for it (`Text.shown`). -/
theorem Published.reportText_lossless [Platform] (p : Published)
    (short : ∀ r ∈ p.records, r.range.Short) :
    ∃ v q, Json.read p.reportText.toList = .ok v ∧ ofValue? v = some q ∧ q.keys.Perm p.keys ∧
      ∀ name files, p.get? name = some files →
        ∃ files', q.get? name = some files' ∧ files'.keys.Perm files.keys ∧
          ∀ location, files'.get? location = files.get? location := by
  refine ⟨_, _, read_reportText short, p.ofValue?_sorted, ?_, fun name files hfiles => ?_⟩
  · have hnames := (p.mapValues Register.inOrder).keys_inOrder_perm
    rwa [Register.keys_mapValues] at hnames
  · have hfound : (p.mapValues Register.inOrder).inOrder.get? name = some files.inOrder := by
      rw [Register.get?_inOrder, Register.get?_mapValues, hfiles, Option.map_some]
    exact ⟨files.inOrder, hfound, files.keys_inOrder_perm, files.get?_inOrder⟩

/-- A collection with one record, whose texts need every kind of escape. -/
def escapedReport : Published :=
  .ofList [("elm-make-diagnostics", .ofList [("C:\\src\\Main.elm",
    [⟨⟨⟨0, 4⟩, ⟨0, 9⟩⟩, "\"é\"\n\t\x01 😀", .warning, none⟩])])]

theorem escapedReport_lossless :
    (∀ r ∈ escapedReport.records, r.range.Short) ∧
      ∃ v q, Json.read escapedReport.reportText.toList = .ok v ∧ Published.ofValue? v = some q ∧
        q.keys.Perm escapedReport.keys ∧
        ∀ name files, escapedReport.get? name = some files →
          ∃ files', q.get? name = some files' ∧ files'.keys.Perm files.keys ∧
            ∀ location, files'.get? location = files.get? location := by
  have hshort : ∀ r ∈ escapedReport.records, r.range.Short := by
    intro r hr
    obtain rfl : r = _ := List.mem_singleton.1 hr
    intro i hi
    refine Decimal.isWritable_of_lt_ten ?_
    simp only [List.mem_cons, List.not_mem_nil, or_false] at hi
    rcases hi with rfl | rfl | rfl | rfl <;> decide
  exact ⟨hshort, Published.reportText_lossless escapedReport hshort⟩

end ElmOnSave
