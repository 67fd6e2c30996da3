import ElmOnSave.Proofs.ReportRoundTrip

/-!
# The report does not depend on the order of publication

Collections that are the same mapping (`Published.SameRecords`) may list their names and locations
in different orders, since each save writes its own locations when it completes.  The report is the
same text for all of them.

Names are compared by their code points (`NameLt`), which is a strict order, so a list of fields has
at most one arrangement with ascending names: the one that `sortFields` finds
(`sortFields_eq_of_perm`).  Registers that are the same mapping have the same entries up to order
(`Register.entries_perm`), and therefore become equal when their names are put in order
(`Register.inOrder_congr`).  This is used once for the locations of a collection and once for the
collections (`Published.ordered_congr`).  What the report writes is the ordered collections, entry
after entry (`Published.sorted_toValue`), with the records of a location left in place.
-/

namespace ElmOnSave

/-! ## Names in order -/

/-- One name stands before another: it has the smaller code point where they first differ, or it is
a proper beginning of the other. -/
def NameLt (a b : String) : Prop :=
  a.toList.map Char.toNat < b.toList.map Char.toNat

/-- The names of a list stand in increasing order. -/
def Ascending (names : List String) : Prop :=
  names.Pairwise NameLt

instance : DecidableRel NameLt := fun a b =>
  inferInstanceAs (Decidable (a.toList.map Char.toNat < b.toList.map Char.toNat))

instance (names : List String) : Decidable (Ascending names) :=
  inferInstanceAs (Decidable (names.Pairwise NameLt))

lemma NameLt.asymm {a b : String} (h : NameLt a b) : ¬NameLt b a :=
  lt_asymm h

lemma nameLe_iff (a b : String) : Json.nameLe (.whole a) (.whole b) = true ↔ ¬NameLt b a := by
  rw [Json.nameLe, Bool.not_eq_true', decide_eq_false_iff_not]
  rfl

lemma NameLt.of_nameLe {a b : String} (le : Json.nameLe (.whole a) (.whole b) = true)
    (ne : a ≠ b) : NameLt a b := by
  have hle : a.toList.map Char.toNat ≤ b.toList.map Char.toNat := not_lt.1 ((nameLe_iff a b).1 le)
  refine lt_of_le_of_ne hle fun h => ne ?_
  exact String.toList_inj.1 (List.map_injective_iff.2 (fun _ _ => Char.toNat_inj.1) h)

section Fields

variable {ν : Type} {fields fields' : List (String × ν)}

lemma pairwise_sortFields (fields : List (String × ν)) :
    (sortFields fields).Pairwise fun a b => Json.nameLe (.whole a.1) (.whole b.1) = true := by
  refine List.pairwise_mergeSort (fun a b c hab hbc => ?_) (fun a b => ?_) fields
  · rw [nameLe_iff, NameLt, not_lt] at hab hbc ⊢
    exact hab.trans hbc
  · rw [Bool.or_eq_true, nameLe_iff, nameLe_iff, NameLt, NameLt, not_lt, not_lt]
    exact le_total _ _

/-- Fields with different names are put in increasing order of their names. -/
lemma ascending_keys_sortFields (distinct : (Entries.keys fields).Nodup) :
    Ascending (Entries.keys (sortFields fields)) := by
  have hdistinct : (Entries.keys (sortFields fields)).Nodup :=
    (keys_sortFields_perm fields).nodup_iff.2 distinct
  have hboth := (pairwise_sortFields fields).and (List.pairwise_map.1 hdistinct)
  exact List.pairwise_map.2 (hboth.imp fun h => NameLt.of_nameLe h.1 h.2)

/-- There is one way to put fields in increasing order of their names. -/
lemma sortFields_eq_of_perm (perm : fields'.Perm fields)
    (ascending : Ascending (Entries.keys fields')) : sortFields fields = fields' := by
  have hne : ∀ {a b : String}, NameLt a b → a ≠ b := fun h heq => lt_irrefl _ (heq ▸ h)
  have hdistinct : (Entries.keys fields).Nodup :=
    (perm.map Prod.fst).nodup_iff.1 (ascending.imp hne)
  have hsorted := List.pairwise_map.1 (ascending_keys_sortFields hdistinct)
  refine List.Perm.eq_of_pairwise (fun a b _ _ hab hba => absurd hba hab.asymm) hsorted
    (List.pairwise_map.1 ascending) ?_
  exact (sortFields_perm fields).trans perm.symm

end Fields

namespace Register

variable {ν : Type}

lemma ascending_keys_inOrder (r : Register String ν) : Ascending r.inOrder.keys :=
  ascending_keys_sortFields r.nodup

/-- Registers that are the same mapping are equal once their names are in order. -/
lemma inOrder_congr {r s : Register String ν} (same : ∀ name, r.get? name = s.get? name) :
    r.inOrder = s.inOrder := by
  have hperm : s.inOrder.entries.Perm r.entries :=
    (sortFields_perm s.entries).trans (entries_perm same).symm
  exact ext (sortFields_eq_of_perm hperm s.ascending_keys_inOrder)

/-- A register written as an object, with the names of all objects in order. -/
lemma sorted_object {toValue laidOut : ν → Value} (h : ∀ x, Json.sorted (toValue x) = laidOut x)
    (r : Register String ν) :
    Json.sorted (.object (r.entries.map fun e => (e.1, toValue e.2))) =
      .object (r.inOrder.entries.map fun e => (e.1, laidOut e.2)) := by
  rw [Value.sorted_object, sortFields_map, List.map_map]
  simp only [Function.comp_def, h]
  rfl

end Register

/-! ## Records -/

/-- A place as it is written, its fields in order. -/
def EditorPosition.laidOut (p : EditorPosition) : Value :=
  .object [("character", .int p.character), ("line", .int p.line)]

/-- A range as it is written, its fields in order. -/
def EditorRange.laidOut (r : EditorRange) : Value :=
  .object [("end", r.stop.laidOut), ("start", r.start.laidOut)]

/-- A record as it is written, its fields in order. -/
def EditorRecord.laidOut (r : EditorRecord) : Value :=
  .object [("message", .ofString r.message), ("range", r.range.laidOut),
    ("severity", .int r.severity.number),
    ("source", match r.source with
      | some s => .ofString s
      | none => .null)]

/-- The objects of a record are in order once their first two fields change places. -/
lemma Value.sorted_object_swap (a b : String × Value) (fields : List (String × Value))
    (ascending : Ascending (b.1 :: a.1 :: Entries.keys fields)) :
    Json.sorted (object (a :: b :: fields)) =
      object ((b :: a :: fields).map fun f => (f.1, Json.sorted f.2)) := by
  rw [Value.sorted_object, sortFields_eq_of_perm (List.Perm.swap a b fields) ascending]

lemma EditorPosition.sorted_toValue (p : EditorPosition) :
    Json.sorted p.toValue = p.laidOut := by
  have hascending : Ascending ["character", "line"] := by decide
  exact Value.sorted_object_swap _ _ _ hascending

lemma EditorRange.sorted_toValue (r : EditorRange) : Json.sorted r.toValue = r.laidOut := by
  have hascending : Ascending ["end", "start"] := by decide
  rw [laidOut, ← EditorPosition.sorted_toValue, ← EditorPosition.sorted_toValue]
  exact Value.sorted_object_swap _ _ _ hascending

lemma EditorRecord.sorted_toValue (r : EditorRecord) : Json.sorted r.toValue = r.laidOut := by
  have hascending : Ascending ["message", "range", "severity", "source"] := by decide
  rw [laidOut, ← EditorRange.sorted_toValue]
  refine (Value.sorted_object_swap _ _ _ hascending).trans ?_
  cases r.source <;> rfl

/-! ## Collections -/

namespace Published

/-- The same names, under each of them the same locations, and at each location the same records in
the same order. -/
def SameRecords (p q : Published) : Prop :=
  ∀ name location, (p.get? name).map (·.get? location) = (q.get? name).map (·.get? location)

/-- Names of collections and locations stand in increasing order. -/
structure IsOrdered (p : Published) : Prop where
  names : Ascending p.keys
  locations : ∀ name files, p.get? name = some files → Ascending files.keys

/-- The same collections, with names and locations in increasing order. -/
def ordered (p : Published) : Published :=
  (p.mapValues Register.inOrder).inOrder

/-- The collections as they stand in the report: their entries in the order in which they are
listed. -/
def laidOut (p : Published) : Value :=
  .object (p.entries.map fun c =>
    (c.1, .object (c.2.entries.map fun f => (f.1, .list (f.2.map EditorRecord.laidOut)))))

variable (p : Published)

lemma get?_ordered (name : String) : p.ordered.get? name = (p.get? name).map Register.inOrder := by
  rw [ordered, Register.get?_inOrder, Register.get?_mapValues]

lemma ordered_sameRecords : p.ordered.SameRecords p := by
  intro name location
  rw [get?_ordered, Option.map_map]
  simp only [Function.comp_def, Register.get?_inOrder]

lemma isOrdered_ordered : p.ordered.IsOrdered where
  names := Register.ascending_keys_inOrder _
  locations name files h := by
    rw [get?_ordered] at h
    obtain ⟨files', -, rfl⟩ := Option.map_eq_some_iff.1 h
    exact files'.ascending_keys_inOrder

/-- Collections that are the same mapping are equal once names and locations are in order. -/
lemma ordered_congr {p q : Published} (same : p.SameRecords q) : p.ordered = q.ordered := by
  refine Register.inOrder_congr fun name => ?_
  rw [Register.get?_mapValues, Register.get?_mapValues]
  have hsame := same name
  cases hp : p.get? name with
  | none => cases hq : q.get? name with
    | none => rfl
    | some files' => simp [hp, hq] at hsame
  | some files => cases hq : q.get? name with
    | none => simp [hp, hq] at hsame
    | some files' =>
      have hfiles : ∀ location, files.get? location = files'.get? location := fun location => by
        simpa [hp, hq] using hsame location
      rw [Option.map_some, Option.map_some, Register.inOrder_congr hfiles]

/-- The names of all objects in order: the ordered collections, entry after entry. -/
lemma sorted_toValue : Json.sorted p.toValue = p.ordered.laidOut := by
  have hrecords : ∀ rs : List EditorRecord,
      Json.sorted (.list (rs.map EditorRecord.toValue)) = .list (rs.map EditorRecord.laidOut) :=
    fun rs => by
      rw [Json.sorted, Json.sortedItems_eq_map, List.map_map]
      exact congrArg Value.list (List.map_congr_left fun r _ => r.sorted_toValue)
  have hentries : p.ordered.entries = p.inOrder.entries.map fun c => (c.1, c.2.inOrder) :=
    sortFields_map Register.inOrder p.entries
  rw [toValue, Register.sorted_object (Register.sorted_object hrecords), laidOut, hentries,
    List.map_map]
  rfl

end Published

/-- **The report does not depend on how the collections were built.**  Collections with the same
names, the same locations under each and the same records at each location have one report, whatever
the orders in which names and locations were first published.  It is the text of these collections
entry after entry, with names and locations in increasing order of code points and the records of a
location in their own order. -/
theorem Published.reportText_canonical {p q : Published} (same : p.SameRecords q) :
    p.reportText = q.reportText ∧
      ∃ o : Published, o.SameRecords p ∧ o.IsOrdered ∧
        p.reportText = String.ofList (Json.write 0 o.laidOut) := by
  have htext : ∀ r : Published, r.reportText = String.ofList (Json.write 0 r.ordered.laidOut) :=
    fun r => by rw [reportText, Json.pretty, sorted_toValue]
  refine ⟨?_, p.ordered, p.ordered_sameRecords, p.isOrdered_ordered, htext p⟩
  rw [htext p, htext q, ordered_congr same]

/-- Records of two files.  The second location has the greater code points, but in UTF-16 the
smaller code units. -/
def compilerFiles : List (String × List EditorRecord) :=
  [("/app/～.elm", [⟨⟨⟨2, 0⟩, ⟨2, 4⟩⟩, "late", .error, none⟩,
      ⟨⟨⟨1, 0⟩, ⟨1, 4⟩⟩, "early", .warning, none⟩]),
    ("/app/😀.elm", [⟨⟨⟨0, 0⟩, ⟨0, 1⟩⟩, "other", .error, none⟩])]

/-- Records of one file. -/
def analyzerFiles : List (String × List EditorRecord) :=
  [("/app/Main.elm", [⟨⟨⟨0, 0⟩, ⟨0, 1⟩⟩, "unused", .warning, some "elm-analyse"⟩])]

/-- The compiler's collection before the analyzer's. -/
def compilerFirst : Published :=
  .ofList [("elm-make-diagnostics", .ofList compilerFiles),
    ("elm-analyse-diagnostics", .ofList analyzerFiles)]

/-- The analyzer's collection before the compiler's, whose files come in the opposite order. -/
def analyzerFirst : Published :=
  .ofList [("elm-analyse-diagnostics", .ofList analyzerFiles),
    ("elm-make-diagnostics", .ofList compilerFiles.reverse)]

theorem compilerFirst_canonical :
    compilerFirst.SameRecords analyzerFirst ∧
      compilerFirst.reportText = analyzerFirst.reportText ∧
        ∃ o : Published, o.SameRecords compilerFirst ∧ o.IsOrdered ∧
          compilerFirst.reportText = String.ofList (Json.write 0 o.laidOut) := by
  have hfiles : ∀ location, (Register.ofList compilerFiles).get? location =
      (Register.ofList compilerFiles.reverse).get? location := by
    intro location
    simp only [compilerFiles, Register.ofList, List.reverse_cons, List.reverse_nil, List.nil_append,
      List.cons_append, List.foldl, Register.get?_put]
    grind
  have hsame : compilerFirst.SameRecords analyzerFirst := by
    intro name location
    simp only [compilerFirst, analyzerFirst, Register.ofList, List.foldl, Register.get?_put]
    grind [Register.ofList]
  exact ⟨hsame, Published.reportText_canonical hsame⟩

end ElmOnSave
