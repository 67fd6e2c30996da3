import ElmOnSave.Diagnostic
import ElmOnSave.Register

/-!
# Collections

A collection shows the records of each file.  Records are replaced as a whole; a file without
records has no entry, and a file that gets records again after it had none comes last.

Whoever writes to a collection replaces the records of a file or clears all of them
(`CollectionChange`), and `Collection.after` is what a course of such changes leaves.
-/

namespace ElmOnSave

/-- A named collection of records by file. -/
structure Collection where
  name : String
  entries : Register String (List EditorRecord)

instance : Inhabited Collection := ⟨⟨"", .empty⟩⟩

namespace Collection

/-- A collection that shows nothing. -/
def named (name : String) : Collection := ⟨name, .empty⟩

/-- Replaces the records of a file; no records remove its entry. -/
def set (c : Collection) (file : String) (records : List EditorRecord) : Collection :=
  if records.isEmpty then { c with entries := c.entries.remove file }
  else { c with entries := c.entries.put file records }

/-- The records of a file. -/
def get (c : Collection) (file : String) : List EditorRecord :=
  (c.entries.get? file).getD []

/-- The records of a file, if it has an entry. -/
def get? (c : Collection) (file : String) : Option (List EditorRecord) :=
  c.entries.get? file

/-- The files with records, in the order in which they were published. -/
def files (c : Collection) : List String :=
  c.entries.keys

def clear (c : Collection) : Collection :=
  { c with entries := .empty }

/-- The records of each file with an entry, in the order of publication. -/
def snapshot (c : Collection) : Register String (List EditorRecord) :=
  c.entries

/-- The number of records. -/
def size (c : Collection) : Nat :=
  c.entries.values.flatten.length

theorem get_set (c : Collection) (file file' : String) (records : List EditorRecord) :
    (c.set file records).get file' = if file = file' then records else c.get file' := by
  unfold set get
  split
  · rename_i h
    have h : records = [] := List.isEmpty_iff.1 h
    simp only [Register.get?_remove]
    split <;> simp [h]
  · simp only [Register.get?_put]
    split <;> rfl

theorem get_eq_getD (c : Collection) (file : String) : c.get file = (c.get? file).getD [] := rfl

theorem get?_set (c : Collection) (file file' : String) (records : List EditorRecord) :
    (c.set file records).get? file' =
      if file = file' then (if records = [] then none else some records) else c.get? file' := by
  cases records with
  | nil => simp [set, get?, Register.get?_remove]
  | cons r rs => simp [set, get?, Register.get?_put]

theorem mem_files_iff (c : Collection) (file : String) : file ∈ c.files ↔ c.get? file ≠ none := by
  rw [files, get?, ne_eq, Register.get?_eq_none_iff, Decidable.not_not]

end Collection

/-- What is done to a collection. -/
inductive CollectionChange where
  /-- The records of a file are replaced; no sequence of records stands for an empty one. -/
  | set (file : String) (records : Option (List EditorRecord))
  /-- All entries are removed. -/
  | cleared
deriving Repr, DecidableEq, Inhabited

namespace Collection

/-- The collection after a change. -/
def changed (c : Collection) : CollectionChange → Collection
  | .set file records => c.set file (records.getD [])
  | .cleared => c.clear

/-- The collection after some changes, one after the other. -/
def after (c : Collection) (changes : List CollectionChange) : Collection :=
  changes.foldl changed c

@[simp] theorem after_nil (c : Collection) : c.after [] = c := rfl

theorem after_concat (c : Collection) (changes : List CollectionChange)
    (change : CollectionChange) :
    c.after (changes ++ [change]) = (c.after changes).changed change := by
  simp [after]

end Collection

end ElmOnSave
