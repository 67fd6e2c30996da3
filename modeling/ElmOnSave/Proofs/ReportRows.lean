import ElmOnSave.Proofs.EditorRanges
import ElmOnSave.Proofs.Registers
import ElmOnSave.Proofs.ShortRegions
import ElmOnSave.ReportTable

/-!
# One row for each record

A table lists the records of a collection if its rows are in the order of their files and the rows
of each file are the records of that file (`ListsRecords`).  This leaves no choice: two lists that
are in the order of a key and agree on the items of every key are the same (`eq_of_filter_eq`), so
the rows are known (`ListsRecords.unique`).  The tables of a report are known as well, since they
stand in the order of the collections and are told by their titles (`Published.Tabulates.unique`).

`Published.tabulates_tables` says that the report has these tables.  Its rows come from the entries
of a collection in the order of the files, and putting the entries in this order does not change
what is found under a file.

Lines and columns lose one on the way to the editor and get it back in the table
(`Position.shown_toEditor`); where both are at least one, nothing is lost at the bound in between.
-/

namespace ElmOnSave

/-- Rows that list the records of a collection. -/
structure ListsRecords (c : Register String (List EditorRecord)) (rows : List ReportRow) :
    Prop where
  /-- The files stand in increasing order. -/
  ordered : rows.Pairwise fun a b => a.file ≤ b.file
  /-- The rows of a file are its records, in their order. -/
  records : ∀ file, rows.filter (fun row => row.file = file) =
    ((c.get? file).getD []).map (ReportRow.ofRecord file)

/-- Tables that show the collections. -/
structure Published.Tabulates (p : Published) (ts : List ReportTable) : Prop where
  /-- The tables stand in the order of the collections, and none has two. -/
  order : (ts.map ReportTable.title).Sublist p.keys
  /-- A collection has a table if it has an entry. -/
  titles : ∀ name, name ∈ ts.map ReportTable.title ↔ ∃ c, p.get? name = some c ∧ c.keys ≠ []
  /-- The rows of a table list the records of its collection. -/
  rows : ∀ t ∈ ts, ∀ c, p.get? t.title = some c → ListsRecords c t.rows

/-! ## Lists in the order of a key -/

section Keys

variable {α β : Type} [LinearOrder β] {key : α → β} {xs ys : List α}

/-- The first item of a list has the least key of the items of another one, if that has the same
items under each key. -/
lemma key_le_of_filter_eq {x y : α} (ordered : (x :: xs).Pairwise fun a b => key a ≤ key b)
    (same : ∀ k, (x :: xs).filter (fun a => key a = k) = ys.filter fun a => key a = k)
    (hy : y ∈ ys) : key x ≤ key y := by
  have hmem : y ∈ ys.filter fun a => key a = key y := List.mem_filter.2 ⟨hy, by simp⟩
  rw [← same] at hmem
  obtain rfl | hy := List.mem_cons.1 (List.mem_of_mem_filter hmem)
  · exact le_rfl
  · exact List.rel_of_pairwise_cons ordered hy

/-- Two lists in the order of a key are equal if they have the same items under each key. -/
lemma eq_of_filter_eq (hxs : xs.Pairwise fun a b => key a ≤ key b)
    (hys : ys.Pairwise fun a b => key a ≤ key b)
    (same : ∀ k, xs.filter (fun a => key a = k) = ys.filter fun a => key a = k) : xs = ys := by
  induction xs generalizing ys with
  | nil =>
    refine (List.eq_nil_iff_forall_not_mem.2 fun y hy => ?_).symm
    have hmem : y ∈ ys.filter fun a => key a = key y := List.mem_filter.2 ⟨hy, by simp⟩
    rw [← same] at hmem
    simp at hmem
  | cons x xs ih =>
    cases ys with
    | nil => simpa using same (key x)
    | cons y ys =>
      have hkey : key y = key x :=
        le_antisymm (key_le_of_filter_eq hys (fun k => (same k).symm) (List.mem_cons_self ..))
          (key_le_of_filter_eq hxs same (List.mem_cons_self ..))
      -- The first items have one key, so both come first among the items of that key.
      obtain ⟨rfl, -⟩ : x = y ∧ _ := by simpa [hkey] using same (key x)
      refine congrArg (x :: ·) (ih hxs.of_cons hys.of_cons fun k => ?_)
      have hcons := same k
      by_cases hk : key x = k
      · simpa [hk] using hcons
      · simpa [hk] using hcons

end Keys

/-! ## Rows -/

section Rows

variable {c : Register String (List EditorRecord)} {rows rows' : List ReportRow}

lemma ListsRecords.unique (h : ListsRecords c rows) (h' : ListsRecords c rows') : rows = rows' :=
  eq_of_filter_eq h.ordered h'.ordered fun file => (h.records file).trans (h'.records file).symm

/-- Where every file has one entry, the rows of a file are found under it. -/
lemma filter_flatMap_rows {es : List (String × List EditorRecord)} (hes : (Entries.keys es).Nodup)
    (file : String) :
    (es.flatMap fun f => f.2.map (ReportRow.ofRecord f.1)).filter (fun row => row.file = file) =
      ((Entries.get? es file).getD []).map (ReportRow.ofRecord file) := by
  induction es with
  | nil => rfl
  | cons e es ih =>
    obtain ⟨file', records⟩ := e
    obtain ⟨hfirst, hrest⟩ := List.nodup_cons.1 hes
    have hrow : ∀ row ∈ records.map (ReportRow.ofRecord file'), row.file = file' := by
      rintro row hrow
      obtain ⟨r, -, rfl⟩ := List.mem_map.1 hrow
      rfl
    rw [List.flatMap_cons, List.filter_append, ih hrest, Entries.get?]
    by_cases hfile : file' = file
    · subst hfile
      have hnone : Entries.get? es file' = none := (Entries.get?_eq_none_iff es file').2 hfirst
      rw [List.filter_eq_self.2 fun row h => by simpa using hrow row h, if_pos rfl, hnone]
      exact List.append_nil _
    · rw [List.filter_eq_nil_iff.2 fun row h => by simpa [hrow row h] using hfile, if_neg hfile]
      rfl

/-- The rows of a table list the records of its collection. -/
lemma listsRecords_rowsOf (c : Register String (List EditorRecord)) :
    ListsRecords c (Published.rowsOf c) := by
  have hperm : (c.entries.mergeSort fun a b => a.1 ≤ b.1).Perm c.entries :=
    List.mergeSort_perm _ _
  have hsorted : (c.entries.mergeSort fun a b => a.1 ≤ b.1).Pairwise fun a b => a.1 ≤ b.1 :=
    List.pairwise_mergeSort' (fun a b => a.1 ≤ b.1) c.entries
  have hkeys : (Entries.keys (c.entries.mergeSort fun a b => a.1 ≤ b.1)).Nodup :=
    (hperm.map Prod.fst).nodup_iff.2 c.nodup
  constructor
  · rw [Published.rowsOf, List.pairwise_flatMap]
    refine ⟨fun f _ => ?_, hsorted.imp fun hle row hrow row' hrow' => ?_⟩
    · exact List.pairwise_map.2 (List.pairwise_of_forall fun _ _ => le_rfl)
    · obtain ⟨r, -, rfl⟩ := List.mem_map.1 hrow
      obtain ⟨r', -, rfl⟩ := List.mem_map.1 hrow'
      exact hle
  · intro file
    rw [Published.rowsOf, filter_flatMap_rows hkeys, Entries.get?_perm hperm hkeys]
    rfl

end Rows

/-! ## Tables -/

namespace Published

variable {p : Published} {ts ts' : List ReportTable}

/-- The titles tell the tables. -/
lemma Tabulates.eq_map (h : p.Tabulates ts) :
    ts = (ts.map ReportTable.title).map fun name =>
      ⟨name, ((p.get? name).map rowsOf).getD []⟩ := by
  rw [List.map_map]
  refine (List.map_id ts).symm.trans (List.map_congr_left fun t ht => ?_)
  obtain ⟨c, hc, -⟩ := (h.titles t.title).1 (List.mem_map_of_mem ht)
  have hrows : t.rows = rowsOf c := (h.rows t ht c hc).unique (listsRecords_rowsOf c)
  simp only [id, Function.comp_apply, hc, Option.map_some, Option.getD_some, ← hrows]

lemma Tabulates.unique (h : p.Tabulates ts) (h' : p.Tabulates ts') : ts = ts' := by
  have hnodup := h.order.nodup p.nodup
  have hnodup' := h'.order.nodup p.nodup
  have htitles : ts.map ReportTable.title = ts'.map ReportTable.title := by
    refine (p.nodup.perm_iff_eq_of_sublist h.order h'.order).1 ?_
    exact (List.perm_ext_iff_of_nodup hnodup hnodup').2 fun name =>
      (h.titles name).trans (h'.titles name).symm
  rw [h.eq_map, h'.eq_map, htitles]

lemma title_tables (p : Published) :
    p.tables.map ReportTable.title = (p.entries.filter fun c => !c.2.isEmpty).map Prod.fst := by
  rw [tables, List.map_map]
  rfl

/-- The tables show the collections. -/
lemma tabulates_tables (p : Published) : p.Tabulates p.tables where
  order := by
    rw [title_tables]
    exact List.filter_sublist.map _
  titles name := by
    rw [title_tables, List.mem_map]
    have hentry : ∀ c, p.get? name = some c ↔ (name, c) ∈ p.entries := fun c =>
      Entries.get?_eq_some_iff p.nodup
    constructor
    · rintro ⟨⟨name', c⟩, hc, rfl⟩
      obtain ⟨hmem, hentries⟩ := List.mem_filter.1 hc
      exact ⟨c, (hentry c).2 hmem, by simpa [Register.isEmpty, Register.keys, Entries.keys]
        using hentries⟩
    · rintro ⟨c, hget, hkeys⟩
      refine ⟨(name, c), List.mem_filter.2 ⟨(hentry c).1 hget, ?_⟩, rfl⟩
      simpa [Register.isEmpty, Register.keys, Entries.keys] using hkeys
  rows t ht c hc := by
    obtain ⟨⟨name, c'⟩, hmem, rfl⟩ := List.mem_map.1 ht
    have hc' : p.get? name = some c' :=
      (Entries.get?_eq_some_iff p.nodup).2 (List.mem_of_mem_filter hmem)
    obtain rfl : c' = c := Option.some.inj (hc'.symm.trans hc)
    exact listsRecords_rowsOf c'

end Published

/-! ## Places -/

namespace Position

variable {p : Position} (hline : 1 ≤ p.line) (hcolumn : 1 ≤ p.column)

include hline hcolumn

/-- What is taken from line and column for the editor is added again for the table. -/
lemma shown_toEditor : p.toEditor.shown = toString p.line ++ ":" ++ toString p.column := by
  rw [toEditor_of_counted hline hcolumn, EditorPosition.shown, pred, sub_add_cancel,
    sub_add_cancel]

lemma isWritable_toEditor : p.toEditor.isWritable = true ↔ p.Short := by
  rw [toEditor_of_counted hline hcolumn, EditorPosition.isWritable, pred, sub_add_cancel,
    sub_add_cancel, Bool.and_eq_true]
  rfl

end Position

/-- **One row for each record, at the compiler's place.**  There is one way to show collections: a
table for each one with an entry, in the order of the collections, whose rows are all its records,
file after file in increasing order and the records of a file in their own order.  The report has
these tables.  The row of a diagnostic whose region counts from one shows where that region starts,
line and column as they were reported, and they can be written if those of the region can. -/
theorem tables_show_every_record (p : Published) :
    (∀ ts, p.Tabulates ts ↔ ts = p.tables) ∧
      ∀ (d : Diagnostic) (source : Option String) (file : String), d.region.IsCounted →
        let place := (ReportRow.ofRecord file (d.toEditor source)).position
        place.shown = toString d.region.start.line ++ ":" ++ toString d.region.start.column ∧
          (place.isWritable = true ↔ d.region.start.Short) := by
  refine ⟨fun ts => ⟨fun h => h.unique p.tabulates_tables, ?_⟩, ?_⟩
  · rintro rfl
    exact p.tabulates_tables
  · rintro d source file ⟨⟨hline, hcolumn⟩, -⟩ place
    exact ⟨Position.shown_toEditor hline hcolumn, Position.isWritable_toEditor hline hcolumn⟩

/-- A problem in the second line of a file. -/
def secondLine (overview : String) : Diagnostic :=
  { Diagnostic.ofProject overview "" "" with region := ⟨⟨2, 10⟩, ⟨2, 12⟩⟩ }

/-- A collection with its files in the opposite order, and one without entries. -/
def twoFiles : Published :=
  .ofList [("compiler", .ofList
      [("src/B.elm", [(secondLine "later").toEditor none, (secondLine "earlier").toEditor none]),
        ("src/A.elm", [(secondLine "other").toEditor none])]),
    ("analyzer", .empty)]

/-- One table, with the files in order. -/
def tableOfTwoFiles : ReportTable where
  title := "compiler"
  rows := [.ofRecord "src/A.elm" ((secondLine "other").toEditor none),
    .ofRecord "src/B.elm" ((secondLine "later").toEditor none),
    .ofRecord "src/B.elm" ((secondLine "earlier").toEditor none)]

lemma tabulates_tableOfTwoFiles : twoFiles.Tabulates [tableOfTwoFiles] where
  order := by decide
  titles name := by
    constructor
    · rintro hname
      obtain rfl : name = "compiler" := List.mem_singleton.1 hname
      exact ⟨_, rfl, by decide⟩
    · rintro ⟨c, hget, hkeys⟩
      have hentry : (name, c) ∈ twoFiles.entries :=
        (Entries.get?_eq_some_iff twoFiles.nodup).1 hget
      obtain hentry | hentry := List.mem_cons.1 hentry
      · rw [(Prod.mk.inj hentry).1]
        exact List.mem_singleton_self _
      · rw [(Prod.mk.inj (List.mem_singleton.1 hentry)).2] at hkeys
        exact absurd rfl hkeys
  rows t ht c hget := by
    obtain rfl := List.mem_singleton.1 ht
    cases hget
    refine ⟨by decide, fun file => ?_⟩
    by_cases hfirst : "src/A.elm" = file
    · subst hfirst
      rfl
    · by_cases hsecond : "src/B.elm" = file
      · subst hsecond
        rfl
      · simp [tableOfTwoFiles, ReportRow.ofRecord, Register.ofList, Register.get?_put, hfirst,
          hsecond]

theorem twoFiles_in_one_table :
    twoFiles.tables = [tableOfTwoFiles] ∧ (secondLine "later").region.IsCounted ∧
      (ReportRow.ofRecord "src/B.elm" ((secondLine "later").toEditor none)).position.shown =
        "2:10" := by
  have counted : (secondLine "later").region.IsCounted := by
    rw [Region.IsCounted]
    decide
  obtain ⟨htables, hplace⟩ := tables_show_every_record twoFiles
  exact ⟨((htables _).1 tabulates_tableOfTwoFiles).symm, counted,
    (hplace _ none "src/B.elm" counted).1⟩

end ElmOnSave
