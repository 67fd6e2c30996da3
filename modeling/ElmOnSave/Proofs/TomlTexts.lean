import ElmOnSave.Config.Load
import ElmOnSave.Proofs.FailingSteps

/-!
# The texts of a TOML document

An escape of a TOML text names a character or is refused, so half of a surrogate pair does not get
into a document, as it does into a JSON one.  `Value.IsWhole` says of a value that its texts are
texts of characters.

The values that are read are whole, which is an invariant of what has been read of a list and of an
inline table (`Toml.ReadsWhole`).  Statements put nothing else into a document than such values and
empty tables, wherever in it they put them (`Toml.keepsWhole_changeNest`).  So the document is whole
(`Toml.isWhole_of_read`) and the table that is the configuration is (`Config.isWhole_of_readTable`).
-/

namespace ElmOnSave

namespace Value

/-- The value is no text, and nothing that holds other values. -/
def IsPlain : Value → Prop
  | text _ => False
  | list _ => False
  | table _ => False
  | _ => True

/-- All texts of the value are texts of characters. -/
inductive IsWhole : Value → Prop where
  | text (s : String) : IsWhole (.text (.whole s))
  | list {items : List Value} (whole : ∀ v ∈ items, IsWhole v) : IsWhole (.list items)
  | table {entries : List (Text × Value)} (whole : ∀ e ∈ entries, IsWhole e.2) :
      IsWhole (.table entries)
  | plain {v : Value} (plain : v.IsPlain) : IsWhole v

lemma isWhole_list_iff {items : List Value} :
    (list items).IsWhole ↔ ∀ v ∈ items, v.IsWhole := by
  refine ⟨?_, .list⟩
  rintro (_ | whole | _ | plain)
  · exact whole
  · exact plain.elim

lemma isWhole_table_iff {entries : List (Text × Value)} :
    (table entries).IsWhole ↔ ∀ e ∈ entries, e.2.IsWhole := by
  refine ⟨?_, .table⟩
  rintro (_ | _ | whole | plain)
  · exact whole
  · exact plain.elim

variable {v w : Value} {key : String}

lemma IsWhole.of_get? (hv : v.IsWhole) (h : v.get? key = some w) : w.IsWhole := by
  unfold Value.get? at h
  split at h
  · exact Entries.of_get? (isWhole_table_iff.1 hv) h
  · cases h

lemma IsWhole.getD (hv : v.IsWhole) (key : String) : (v.getD key).IsWhole := by
  rw [Value.getD]
  cases hget : v.get? key with
  | none => exact .plain (v := .null) trivial
  | some w => exact hv.of_get? hget

end Value

namespace Toml

/-! ## Values -/

/-- What is read, if anything, is a whole value. -/
def YieldsWhole (r : Parsed Value) : Prop :=
  ∀ v c, r = .ok (v, c) → v.IsWhole

lemma yieldsWhole_error (e : Objection) : YieldsWhole (.error e) := by
  intro v c h
  cases h

lemma yieldsWhole_ok {v : Value} (hv : v.IsWhole) (c : Cursor) : YieldsWhole (.ok (v, c)) := by
  rintro v c ⟨⟩
  exact hv

lemma yieldsWhole_string (r : Parsed (List Char)) :
    YieldsWhole (r.map fun (s, c) => (.ofString (String.ofList s), c)) := by
  cases r with
  | error e => exact yieldsWhole_error e
  | ok p => exact yieldsWhole_ok (.text _) _

lemma yieldsWhole_of_moment? {c : Cursor} {r : Parsed Value} (h : moment? c = some r) :
    YieldsWhole r := by
  unfold moment? at h
  split at h
  · dsimp only at h
    split at h
    · cases h
      exact yieldsWhole_ok (.plain (v := .moment _) trivial) _
    · cases h
      exact yieldsWhole_error _
  · obtain ⟨rest, -, rfl⟩ := Option.map_eq_some_iff.1 h
    exact yieldsWhole_ok (.plain (v := .moment _) trivial) _

lemma isPlain_of_basedInteger? {cs rest : List Char} {v : Value}
    (h : basedInteger? cs = some (v, rest)) : v.IsPlain := by
  unfold basedInteger? at h
  split at h
  · split at h
    · cases h
    · dsimp only at h
      split at h
      · cases h
      · cases h
        trivial
  · cases h

lemma isPlain_of_decimal? {cs rest : List Char} {v : Value}
    (h : decimal? cs = some (.ok v, rest)) : v.IsPlain := by
  unfold decimal? at h
  -- The sign and the digits in front of the point do not matter.
  split at h
  split at h
  split at h
  · cases h
  · dsimp only at h
    split at h
    · split at h
      · cases h
      · cases h
        trivial
    · cases h
      trivial

lemma yieldsWhole_of_number? {c : Cursor} {r : Parsed Value} (h : number? c = some r) :
    YieldsWhole r := by
  unfold number? at h
  split at h
  · rename_i hinteger
    cases h
    exact yieldsWhole_ok (.plain (isPlain_of_basedInteger? hinteger)) _
  · obtain ⟨⟨x, rest⟩, hdecimal, rfl⟩ := Option.map_eq_some_iff.1 h
    cases x with
    | error e => exact yieldsWhole_error e
    | ok v => exact yieldsWhole_ok (.plain (isPlain_of_decimal? hdecimal)) _

lemma isPlain_of_mem_words : ∀ w ∈ words, w.2.IsPlain := by
  simp [words, Value.IsPlain]

lemma yieldsWhole_plainScalar (c : Cursor) : YieldsWhole (plainScalar c) := by
  unfold plainScalar
  split
  · rename_i hmoment
    exact yieldsWhole_of_moment? hmoment
  · split
    · rename_i hnumber
      exact yieldsWhole_of_number? hnumber
    · split
      · rename_i hword
        exact yieldsWhole_ok (.plain (isPlain_of_mem_words _ (List.mem_of_find?_eq_some hword))) _
      · exact yieldsWhole_error _

/-! ## Tables -/

/-- All values of the table are whole. -/
def Table.IsWhole (t : Table) : Prop :=
  ∀ e ∈ t, e.2.IsWhole

/-- What is made of a whole table, if anything, is one. -/
def KeepsWhole (change : Table → Option Table) : Prop :=
  ∀ {t t' : Table}, t.IsWhole → change t = some t' → t'.IsWhole

lemma keepsWhole_some : KeepsWhole some := by
  rintro t t' ht ⟨⟩
  exact ht

lemma keepsWhole_putNew (name : String) {v : Value} (hv : v.IsWhole) :
    KeepsWhole (Document.putNew name v) := by
  intro t t' ht h
  unfold Document.putNew at h
  split at h
  · cases h
    exact Entries.forall_put ht _ hv
  · cases h

lemma keepsWhole_appendItem (name : String) : KeepsWhole (Document.appendItem name) := by
  intro t t' ht h
  have hempty : (Value.table []).IsWhole := .table (List.forall_mem_nil _)
  unfold Document.appendItem at h
  split at h
  · cases h
    exact Entries.forall_put ht _ (.list (List.forall_mem_singleton.2 hempty))
  · rename_i items hitems
    cases h
    have hitems : (Value.list items).IsWhole := Entries.of_get? ht hitems
    refine Entries.forall_put ht _ (.list (List.forall_mem_append.2 ⟨?_, ?_⟩))
    · exact Value.isWhole_list_iff.1 hitems
    · exact List.forall_mem_singleton.2 hempty
  · cases h

/-- The way to the table that is changed leads through whole tables, and these are written back. -/
lemma keepsWhole_changeNest (throughLists : Bool) {change : Table → Option Table}
    (hchange : KeepsWhole change) (key : Key) : KeepsWhole (changeNest throughLists change key) := by
  induction key with
  | nil => exact hchange
  | cons k ks ih =>
    intro t t' ht h
    have hhere : ((Entries.get? t (.whole k)).getD (.table [])).IsWhole := by
      cases hget : Entries.get? t (.whole k) with
      | none => exact .table (List.forall_mem_nil _)
      | some v => exact Entries.of_get? ht hget
    rw [changeNest] at h
    split at h
    · rename_i inner heq
      rw [heq, Value.isWhole_table_iff] at hhere
      obtain ⟨inner', hinner, rfl⟩ := Option.map_eq_some_iff.1 h
      exact Entries.forall_put ht _ (.table (ih hhere hinner))
    · rename_i items heq
      rw [heq, Value.isWhole_list_iff] at hhere
      split at h
      · split at h
        · rename_i inner before hitems
          have hitems : ∀ v ∈ .table inner :: before, v.IsWhole := by
            intro v hv
            rw [← hitems, List.mem_reverse] at hv
            exact hhere v hv
          obtain ⟨hlast, hbefore⟩ := List.forall_mem_cons.1 hitems
          obtain ⟨inner', hinner, rfl⟩ := Option.map_eq_some_iff.1 h
          have hinner' : inner'.IsWhole := ih (Value.isWhole_table_iff.1 hlast) hinner
          refine Entries.forall_put ht _ (.list (List.forall_mem_append.2 ⟨?_, ?_⟩))
          · intro v hv
            exact hbefore v (List.mem_reverse.1 hv)
          · exact List.forall_mem_singleton.2 (.table hinner')
        · cases h
      · cases h
    · cases h

lemma InlineTable.isWhole_of_assign {t t' : InlineTable} {key : Key} {v : Value} {offset : Nat}
    (ht : t.entries.IsWhole) (hv : v.IsWhole) (h : t.assign key v offset = .ok t') :
    t'.entries.IsWhole := by
  unfold InlineTable.assign at h
  split at h
  · cases h
  · split at h
    · cases h
    · split at h
      · cases h
      · rename_i hput
        cases h
        exact keepsWhole_changeNest false (keepsWhole_putNew _ hv) _ ht hput

lemma InlineTable.entries_seal (t : InlineTable) (key : Key) (v : Value) :
    (t.seal key v).entries = t.entries := by
  unfold InlineTable.seal
  split <;> rfl

/-! ## Lists and inline tables -/

/-- What is read of a value with some fuel is whole, if what has been read of it before is. -/
structure ReadsWhole (fuel : Nat) : Prop where
  value : ∀ room c, YieldsWhole (value fuel room c)
  arrayItems : ∀ room c acc, (∀ v ∈ acc, v.IsWhole) → YieldsWhole (arrayItems fuel room c acc)
  inlineEntries : ∀ room c t, t.entries.IsWhole → YieldsWhole (inlineEntries fuel room c t)
  keyValue : ∀ room c k v c', keyValue fuel room c = .ok ((k, v), c') → v.IsWhole

section Fuel

variable {fuel : Nat} (ih : ReadsWhole fuel)
include ih

lemma yieldsWhole_value (room : Nat) (c : Cursor) : YieldsWhole (value (fuel + 1) room c) := by
  rw [value]
  split
  · exact yieldsWhole_string _
  · exact yieldsWhole_string _
  · split
    · exact yieldsWhole_error _
    · split
      · exact yieldsWhole_error _
      · split
        · exact yieldsWhole_ok (.list (List.forall_mem_nil _)) _
        · exact ih.arrayItems _ _ _ (List.forall_mem_nil _)
  · split
    · exact yieldsWhole_error _
    · dsimp only
      split
      · exact yieldsWhole_ok (.table (List.forall_mem_nil _)) _
      · exact ih.inlineEntries _ _ _ (List.forall_mem_nil _)
  · split
    · exact yieldsWhole_ok (.plain (v := .bool true) trivial) _
    · split
      · exact yieldsWhole_ok (.plain (v := .bool false) trivial) _
      · exact yieldsWhole_plainScalar c

lemma yieldsWhole_arrayItems (room : Nat) (c : Cursor) {acc : List Value}
    (hacc : ∀ v ∈ acc, v.IsWhole) : YieldsWhole (arrayItems (fuel + 1) room c acc) := by
  rw [arrayItems]
  split
  · exact yieldsWhole_error _
  · rename_i v c' hread
    have hitems : ∀ w ∈ v :: acc, w.IsWhole :=
      List.forall_mem_cons.2 ⟨ih.value room c v c' hread, hacc⟩
    have hlist : (Value.list (v :: acc).reverse).IsWhole :=
      .list fun w hw => hitems w (List.mem_reverse.1 hw)
    split
    · exact yieldsWhole_error _
    · split
      · exact yieldsWhole_ok hlist _
      · split
        · exact yieldsWhole_error _
        · split
          · exact yieldsWhole_ok hlist _
          · exact ih.arrayItems _ _ _ hitems
      · exact yieldsWhole_error _

lemma yieldsWhole_inlineEntries (room : Nat) (c : Cursor) {t : InlineTable}
    (ht : t.entries.IsWhole) : YieldsWhole (inlineEntries (fuel + 1) room c t) := by
  rw [inlineEntries]
  split
  · exact yieldsWhole_error _
  · rename_i k v c' hread
    split
    · exact yieldsWhole_error _
    · rename_i t' hassign
      have ht' := InlineTable.isWhole_of_assign ht (ih.keyValue room c k v c' hread) hassign
      dsimp only
      split
      · exact yieldsWhole_ok (.table ht') _
      · refine ih.inlineEntries _ _ _ ?_
        rw [InlineTable.entries_seal]
        exact ht'
      · exact yieldsWhole_error _

lemma isWhole_of_keyValue {room : Nat} {c c' : Cursor} {k : Key} {v : Value}
    (h : keyValue (fuel + 1) room c = .ok ((k, v), c')) : v.IsWhole := by
  rw [keyValue] at h
  split at h
  · cases h
  · rename_i c'' _
    split at h
    · obtain ⟨p, hread, hp⟩ := map_eq_ok_iff.1 h
      cases hp
      exact ih.value _ _ _ _ hread
    · cases h

end Fuel

lemma readsWhole (fuel : Nat) : ReadsWhole fuel := by
  induction fuel with
  | zero =>
    constructor
    · intro room c
      rw [value]
      exact yieldsWhole_error _
    · intro room c acc _
      rw [arrayItems]
      exact yieldsWhole_error _
    · intro room c t _
      rw [inlineEntries]
      exact yieldsWhole_error _
    · intro room c k v c' h
      rw [keyValue] at h
      cases h
  | succ fuel ih =>
    exact ⟨yieldsWhole_value ih, fun room c _ => yieldsWhole_arrayItems ih room c,
      fun room c _ => yieldsWhole_inlineEntries ih room c,
      fun _ _ _ _ _ => isWhole_of_keyValue ih⟩

/-! ## Documents -/

/-- All values of the document are whole. -/
def Document.IsWhole (d : Document) : Prop :=
  d.root.IsWhole

namespace Document

variable {d d' : Document} {key : Key} {offset : Nat}

lemma IsWhole.declareTable (hd : d.IsWhole) (h : d.declareTable key offset = .ok d') :
    d'.IsWhole := by
  unfold Document.declareTable at h
  split at h
  · cases h
  · split at h
    · cases h
    · rename_i hroot
      cases h
      exact keepsWhole_changeNest true keepsWhole_some _ hd hroot

lemma IsWhole.declareItem (hd : d.IsWhole) (h : d.declareItem key offset = .ok d') :
    d'.IsWhole := by
  unfold Document.declareItem at h
  split at h
  · cases h
  · split at h
    · cases h
    · rename_i hroot
      cases h
      exact keepsWhole_changeNest true (keepsWhole_appendItem _) _ hd hroot

lemma IsWhole.assign (hd : d.IsWhole) {v : Value} (hv : v.IsWhole)
    (h : d.assign key v offset = .ok d') : d'.IsWhole := by
  unfold Document.assign at h
  dsimp only at h
  split at h
  · cases h
  · split at h
    · cases h
    · split at h
      · cases h
      · rename_i hroot
        cases h
        exact keepsWhole_changeNest true (keepsWhole_putNew _ hv) _ hd hroot

end Document

lemma isWhole_of_closeHeader {d d' : Document} {mark : String} {complaint : Complaint}
    {c c' : Cursor} (hd : d.IsWhole) (h : closeHeader mark complaint d c = .ok (d', c')) :
    d'.IsWhole := by
  unfold closeHeader at h
  split at h
  · cases h
    exact hd
  · cases h

/-- One statement more. -/
lemma isWhole_of_statement [Platform] {d d' : Document} {c c' : Cursor} (hd : d.IsWhole)
    (h : statement d c = .ok (d', c')) : d'.IsWhole := by
  have hstart : d.startHeader.IsWhole := hd
  unfold statement at h
  dsimp only at h
  split at h
  · split at h
    · split at h
      · cases h
      · split at h
        · cases h
        · rename_i hdeclare
          exact isWhole_of_closeHeader (hstart.declareItem hdeclare) h
    · split at h
      · cases h
      · split at h
        · cases h
        · rename_i hdeclare
          exact isWhole_of_closeHeader (hstart.declareTable hdeclare) h
  · split at h
    · split at h
      · cases h
      · rename_i k v c₁ hread
        have hv : v.IsWhole := (readsWhole _).keyValue _ _ k v c₁ hread
        obtain ⟨d₁, hassign, hd₁⟩ := map_eq_ok_iff.1 h
        cases hd₁
        exact hd.assign hv hassign
    · split at h
      · cases h
        exact hd
      · cases h
  · cases h
    exact hd

lemma isWhole_of_statements [Platform] {fuel : Nat} {d d' : Document} {c : Cursor} (hd : d.IsWhole)
    (h : statements fuel d c = .ok d') : d'.IsWhole := by
  induction fuel generalizing d c with
  | zero =>
    cases h
    exact hd
  | succ fuel ih =>
    rw [statements] at h
    split at h
    · cases h
      exact hd
    · exact ih hd h
    · split at h
      · cases h
      · rename_i d₁ c₁ hstatement
        have hd₁ : d₁.IsWhole := isWhole_of_statement hd hstatement
        split at h
        · cases h
        · split at h
          · cases h
            exact hd₁
          · exact ih hd₁ h
          · cases h

/-- Whatever is read from a TOML text is whole. -/
theorem isWhole_of_read [Platform] {cs : List Char} {t : Table} (h : read cs = .ok t) :
    t.IsWhole := by
  unfold read at h
  dsimp only at h
  split at h
  · rename_i hread
    cases h
    exact isWhole_of_statements (d := .empty) (List.forall_mem_nil _) hread
  · cases h

end Toml

namespace Config

lemma isWhole_of_sectionOf {path : Path} {document entries : List (Text × Value)}
    (hdocument : (Value.table document).IsWhole) (h : sectionOf path document = .ok entries) :
    (Value.table entries).IsWhole := by
  unfold sectionOf at h
  split at h
  · rename_i hsection
    cases h
    exact (hdocument.getD "tool").of_get? hsection
  · cases h
  · cases h
    split
    · exact .table (List.forall_mem_nil _)
    · exact hdocument

/-- The table that is the configuration is whole. -/
theorem isWhole_of_readTable [Platform] {m : Machine} {path : Path} {entries : List (Text × Value)}
    (h : readTable m path = .ok entries) : (Value.table entries).IsWhole := by
  obtain ⟨cs, -, h⟩ := bind_eq_ok_iff.1 h
  obtain ⟨document, hread, hsection⟩ := bind_eq_ok_iff.1 h
  exact isWhole_of_sectionOf (.table (Toml.isWhole_of_read (mapError_eq_ok_iff.1 hread)))
    (mapError_eq_ok_iff.1 hsection)

end Config

end ElmOnSave
