import ElmOnSave.Collection
import ElmOnSave.Proofs.Registers
import ElmOnSave.Proofs.Splitting

/-!
# What a collection shows after some changes

What a collection shows can be read off the changes made to it.  The records of a file are those of
its last setting since the collection was last cleared.  The files stand in the order in which their
entries were created, and `Creation` says which change created the entry of a file: it shows records
of the file, which had none then (`Absent`), and nothing took them away later.  A change that
replaces records creates no entry, so the file keeps its place; a file that is hidden and shown again
has its entry from the later change.

`Displays` gathers all this, and `after_displays` is the result.  What is shown and what was created
follow the same rule from change to change (`absent_concat_iff`, `creation_concat_iff`).  The order
is kept because a change leaves the creations of the files that stay as they are
(`InCreationOrder.concat`), and a file that is new comes last, created by the last change.
-/

namespace ElmOnSave

namespace CollectionChange

/-- The change gives records to a file. -/
def Shows (file : String) : CollectionChange → Prop
  | .set other records => other = file ∧ records.getD [] ≠ []
  | .cleared => False

/-- The change leaves a file without records. -/
def Hides (file : String) : CollectionChange → Prop
  | .set other records => other = file ∧ records.getD [] = []
  | .cleared => True

/-- The change is about another file. -/
def Spares (file : String) : CollectionChange → Prop
  | .set other _ => other ≠ file
  | .cleared => False

section Kinds

variable {file : String} {change : CollectionChange}

lemma Shows.not_hides (h : change.Shows file) : ¬ change.Hides file := by
  cases change with
  | set other records => exact fun hides => h.2 hides.2
  | cleared => exact h.elim

lemma Spares.not_shows (h : change.Spares file) : ¬ change.Shows file := by
  cases change with
  | set other records => exact fun shows => h shows.1
  | cleared => exact h.elim

lemma Spares.not_hides (h : change.Spares file) : ¬ change.Hides file := by
  cases change with
  | set other records => exact fun hides => h hides.1
  | cleared => exact h.elim

lemma cases_at (file : String) (change : CollectionChange) :
    change.Shows file ∨ change.Hides file ∨ change.Spares file := by
  cases change with
  | set other records =>
    by_cases hfile : other = file
    · by_cases hrecords : records.getD [] = []
      · exact .inr (.inl ⟨hfile, hrecords⟩)
      · exact .inl ⟨hfile, hrecords⟩
    · exact .inr (.inr hfile)
  | cleared => exact .inr (.inl trivial)

end Kinds

end CollectionChange

/-! ## Creations -/

/-- A file has no records after some changes: whatever shows it is followed by a change that hides
it. -/
def Absent (file : String) (changes : List CollectionChange) : Prop :=
  ∀ before change after, changes = before ++ change :: after → change.Shows file →
    ∃ later ∈ after, later.Hides file

/-- The entry that a file has after some changes was created by the change behind the first of
them. -/
inductive Creation (file : String) (changes before : List CollectionChange) : Prop where
  | intro {change : CollectionChange} {after : List CollectionChange}
      (split : changes = before ++ change :: after) (shows : change.Shows file)
      (absent : Absent file before) (kept : ∀ later ∈ after, ¬ later.Hides file)

section Concat

variable {file : String} {changes before : List CollectionChange} {change : CollectionChange}

lemma absent_concat_iff :
    Absent file (changes ++ [change]) ↔
      change.Hides file ∨ Absent file changes ∧ ¬ change.Shows file := by
  constructor
  · intro h
    by_cases hides : change.Hides file
    · exact .inl hides
    · refine .inr ⟨fun before shown after split shows => ?_, fun shows => ?_⟩
      · obtain ⟨later, hmem, hlater⟩ := h before shown (after ++ [change]) (by simp [split]) shows
        rcases List.mem_append.1 hmem with hmem | hmem
        · exact ⟨later, hmem, hlater⟩
        · rw [List.mem_singleton.1 hmem] at hlater
          exact absurd hlater hides
      · obtain ⟨later, hmem, -⟩ := h changes change [] rfl shows
        cases hmem
  · intro h before shown after split shows
    rcases concat_eq_append_cons split with ⟨-, rfl, -⟩ | ⟨after', split', rfl⟩
    · exact (h.elim shows.not_hides fun h => h.2 shows).elim
    · rcases h with hides | ⟨absent, -⟩
      · exact ⟨change, by simp, hides⟩
      · obtain ⟨later, hmem, hlater⟩ := absent before shown after' split' shows
        exact ⟨later, List.mem_append_left _ hmem, hlater⟩

lemma creation_concat_iff :
    Creation file (changes ++ [change]) before ↔
      (Creation file changes before ∧ ¬ change.Hides file) ∨
        before = changes ∧ change.Shows file ∧ Absent file changes := by
  constructor
  · rintro ⟨split, shows, absent, kept⟩
    rcases concat_eq_append_cons split with ⟨rfl, rfl, -⟩ | ⟨after', split', rfl⟩
    · exact .inr ⟨rfl, shows, absent⟩
    · rw [List.forall_mem_append] at kept
      exact .inl ⟨⟨split', shows, absent, kept.1⟩, kept.2 change (List.mem_singleton_self _)⟩
  · rintro (⟨@⟨shown, after, split, shows, absent, kept⟩, hides⟩ | ⟨rfl, shows, absent⟩)
    · have hsplit : changes ++ [change] = before ++ shown :: (after ++ [change]) := by
        rw [split, List.append_assoc, List.cons_append]
      exact ⟨hsplit, shows, absent,
        List.forall_mem_append.2 ⟨kept, List.forall_mem_singleton.2 hides⟩⟩
    · exact ⟨rfl, shows, absent, nofun⟩

/-- A file has an entry that was created, or it is absent. -/
lemma exists_creation_iff : (∃ before, Creation file changes before) ↔ ¬ Absent file changes := by
  induction changes using List.reverseRecOn with
  | nil =>
    refine iff_of_false ?_ (not_not_intro fun before change after split => ?_)
    · rintro ⟨before, ⟨split, -, -, -⟩⟩
      simp at split
    · simp at split
  | append_singleton changes change ih =>
    simp only [creation_concat_iff, absent_concat_iff, exists_or, exists_and_right, ih]
    have hnot : change.Shows file → ¬ change.Hides file := CollectionChange.Shows.not_hides
    tauto

/-- The entry of a file was created by one change only. -/
lemma Creation.unique {before' : List CollectionChange} (h : Creation file changes before)
    (h' : Creation file changes before') : before = before' := by
  obtain ⟨split, shows, absent, kept⟩ := h
  obtain ⟨split', shows', absent', kept'⟩ := h'
  -- Of two creations, the later one finds the file hidden again, which the earlier one excludes.
  rcases append_cons_cases (split.symm.trans split') with ⟨hsame, -⟩ | ⟨m, hm, hafter⟩ |
    ⟨m, hm, hafter⟩
  · exact hsame
  · obtain ⟨later, hmem, hides⟩ := absent' _ _ m hm shows
    exact absurd hides (kept later (by simp [hafter, hmem]))
  · obtain ⟨later, hmem, hides⟩ := absent _ _ m hm shows'
    exact absurd hides (kept' later (by simp [hafter, hmem]))

lemma Creation.length_lt (h : Creation file changes before) : before.length < changes.length := by
  obtain ⟨split, -, -, -⟩ := h
  rw [split, List.length_append, List.length_cons]
  omega

end Concat

/-! ## Changes -/

namespace Collection

section Changed

variable (c : Collection) {file : String} {change : CollectionChange}

lemma get_changed_of_shows (h : change.Shows file) : (c.changed change).get file ≠ [] := by
  cases change with
  | set other records =>
    obtain ⟨rfl, hrecords⟩ := h
    rwa [changed, get_set, if_pos rfl]
  | cleared => exact h.elim

lemma get_changed_of_hides (h : change.Hides file) : (c.changed change).get file = [] := by
  cases change with
  | set other records =>
    obtain ⟨rfl, hrecords⟩ := h
    rwa [changed, get_set, if_pos rfl]
  | cleared => rfl

lemma get_changed_of_spares (h : change.Spares file) :
    (c.changed change).get file = c.get file := by
  cases change with
  | set other records => rw [changed, get_set, if_neg h]
  | cleared => exact h.elim

end Changed

section After

variable (name : String) (changes : List CollectionChange)

/-- Changes about other files leave the records of a file as they are. -/
lemma get_after_of_spares (c : Collection) {file : String} {changes : List CollectionChange}
    (h : ∀ change ∈ changes, change.Spares file) : (c.after changes).get file = c.get file := by
  induction changes using List.reverseRecOn with
  | nil => rfl
  | append_singleton changes change ih =>
    rw [List.forall_mem_append, List.forall_mem_singleton] at h
    rw [after_concat, get_changed_of_spares _ h.2, ih h.1]

/-- A file has no records exactly when nothing shows it that is not taken back. -/
theorem get_after_eq_nil_iff (file : String) :
    ((named name).after changes).get file = [] ↔ Absent file changes := by
  induction changes using List.reverseRecOn with
  | nil => exact iff_of_true rfl fun before change after split => by simp at split
  | append_singleton changes change ih =>
    rw [after_concat, absent_concat_iff, ← ih]
    rcases change.cases_at file with shows | hides | spares
    · simp [get_changed_of_shows _ shows, shows, shows.not_hides]
    · simp [get_changed_of_hides _ hides, hides]
    · simp [get_changed_of_spares _ spares, spares.not_shows, spares.not_hides]

/-- No entry is empty. -/
def Full (c : Collection) : Prop :=
  ∀ file, c.get? file ≠ some []

lemma Full.changed {c : Collection} (h : c.Full) (change : CollectionChange) :
    (c.changed change).Full := by
  intro file
  cases change with
  | set other records =>
    rw [Collection.changed, get?_set]
    split
    · split
      · exact nofun
      · rename_i hrecords
        exact fun heq => hrecords (Option.some.inj heq)
    · exact h file
  | cleared => exact nofun

lemma full_after : ((named name).after changes).Full := by
  induction changes using List.reverseRecOn with
  | nil => exact fun file => nofun
  | append_singleton changes change ih =>
    rw [after_concat]
    exact ih.changed change

lemma Full.mem_files_iff {c : Collection} (h : c.Full) (file : String) :
    file ∈ c.files ↔ c.get file ≠ [] := by
  rw [Collection.mem_files_iff, get_eq_getD]
  cases hget : c.get? file with
  | none => simp
  | some records =>
    have hrecords : records ≠ [] := fun heq => h file (heq ▸ hget)
    simp [hrecords]

theorem mem_files_after_iff (file : String) :
    file ∈ ((named name).after changes).files ↔ ∃ before, Creation file changes before := by
  rw [(full_after name changes).mem_files_iff, ne_eq, get_after_eq_nil_iff, exists_creation_iff]

end After

/-! ## The order of the files -/

lemma files_set (c : Collection) (file : String) (records : List EditorRecord) :
    (c.set file records).files =
      if records = [] then c.files.filter (· ≠ file)
      else if file ∈ c.files then c.files else c.files ++ [file] := by
  cases records with
  | nil => exact c.entries.keys_remove file
  | cons r records => exact c.entries.keys_put file (r :: records)

/-- Of two files, the entry of the first was created earlier. -/
def InCreationOrder (changes : List CollectionChange) (files : List String) : Prop :=
  files.Pairwise fun file file' => ∀ before before', Creation file changes before →
    Creation file' changes before' → before.length < before'.length

/-- Files that had their entries before a change keep their order. -/
lemma InCreationOrder.concat {changes : List CollectionChange} {files files' : List String}
    (h : InCreationOrder changes files) (created : ∀ file ∈ files, ¬ Absent file changes)
    (sub : files'.Sublist files) (change : CollectionChange) :
    InCreationOrder (changes ++ [change]) files' := by
  have hold : ∀ file ∈ files', ∀ before, Creation file (changes ++ [change]) before →
      Creation file changes before := by
    intro file hfile before hcreation
    rcases creation_concat_iff.1 hcreation with ⟨hcreation, -⟩ | ⟨-, -, absent⟩
    · exact hcreation
    · exact absurd absent (created file (sub.subset hfile))
  refine (h.sublist sub).imp_of_mem fun hfile hfile' hlt before before' hbefore hbefore' => ?_
  exact hlt before before' (hold _ hfile before hbefore) (hold _ hfile' before' hbefore')

/-- The files stand in the order in which their entries were created. -/
theorem inCreationOrder_after (name : String) (changes : List CollectionChange) :
    InCreationOrder changes ((named name).after changes).files := by
  induction changes using List.reverseRecOn with
  | nil => exact .nil
  | append_singleton changes change ih =>
    have created : ∀ file ∈ ((named name).after changes).files, ¬ Absent file changes :=
      fun file hfile => exists_creation_iff.1 ((mem_files_after_iff name changes file).1 hfile)
    rw [after_concat]
    cases change with
    | cleared => exact .nil
    | set file records =>
      rw [changed, files_set]
      split
      · exact ih.concat created List.filter_sublist _
      · split
        · exact ih.concat created (.refl _) _
        · -- The entry is new, so it was created by the last change.
          rename_i hnew
          refine List.pairwise_append.2 ⟨ih.concat created (.refl _) _, by simp, ?_⟩
          rintro other hother file' hfile before before' hbefore hbefore'
          obtain rfl := List.mem_singleton.1 hfile
          have hlast : before' = changes := by
            rcases creation_concat_iff.1 hbefore' with ⟨hcreation, -⟩ | ⟨hlast, -⟩
            · exact absurd ((mem_files_after_iff name changes _).2 ⟨before', hcreation⟩) hnew
            · exact hlast
          rcases creation_concat_iff.1 hbefore with ⟨hcreation, -⟩ | ⟨-, -, absent⟩
          · rw [hlast]
            exact hcreation.length_lt
          · exact absurd absent (created other hother)

/-! ## The result -/

/-- What a collection shows after some changes. -/
structure Displays (changes : List CollectionChange) (c : Collection) : Prop where
  /-- The records of a file are those of its last setting since the last clearing. -/
  records_of_set : ∀ file before records later, changes = before ++ .set file records :: later →
    (∀ change ∈ later, change.Spares file) → c.get file = records.getD []
  /-- Without such a setting there are none. -/
  records_of_none : ∀ file, (∀ before records later,
    changes = before ++ .set file records :: later → .cleared ∈ later) → c.get file = []
  /-- The files are those with records. -/
  mem_files : ∀ file, file ∈ c.files ↔ c.get file ≠ []
  /-- No file stands twice. -/
  nodup : c.files.Nodup
  /-- The entry of each file was created by one of the changes. -/
  created : ∀ file ∈ c.files, ∃! before, Creation file changes before
  /-- The files stand in the order in which their entries were created. -/
  order : InCreationOrder changes c.files
  /-- The snapshot has the same files in the same order, each with its records. -/
  snapshot : c.snapshot.entries = c.files.map fun file => (file, c.get file)
  /-- No value of the snapshot is empty. -/
  full : ∀ records ∈ c.snapshot.values, records ≠ []
  /-- The size is the number of the records of all entries. -/
  size : c.size = (c.snapshot.values.map List.length).sum

/-- **A collection displays the changes made to it.**  After any course of settings, with records or
without, and clearings, a file shows the records of its last setting since the last clearing; the
files with records stand once each, in the order in which their entries were created; and the
snapshot and the size are those of these entries. -/
theorem after_displays (name : String) (changes : List CollectionChange) :
    Displays changes ((named name).after changes) := by
  have hfull := full_after name changes
  have hsnapshot : ((named name).after changes).snapshot.entries =
      ((named name).after changes).files.map fun file =>
        (file, ((named name).after changes).get file) := Register.entries_eq_map_keys _
  refine
    { records_of_set := ?_
      records_of_none := ?_
      mem_files := hfull.mem_files_iff
      nodup := Register.nodup _
      created := fun file hfile => ?_
      order := inCreationOrder_after name changes
      snapshot := hsnapshot
      full := ?_
      size := List.length_flatten }
  · rintro file before records later rfl hlater
    have hsplit : (named name).after (before ++ .set file records :: later) =
        (((named name).after before).changed (.set file records)).after later := by
      simp [after]
    rw [hsplit, get_after_of_spares _ hlater, changed, get_set, if_pos rfl]
  · intro file hcleared
    rw [get_after_eq_nil_iff]
    intro before change later split shows
    cases change with
    | set other records =>
      obtain ⟨rfl, -⟩ := shows
      exact ⟨.cleared, hcleared before records later split, trivial⟩
    | cleared => exact shows.elim
  · obtain ⟨before, hcreation⟩ := (mem_files_after_iff name changes file).1 hfile
    exact ⟨before, hcreation, fun before' hcreation' => hcreation'.unique hcreation⟩
  · rw [Register.values, hsnapshot, List.map_map, List.forall_mem_map]
    exact fun file hfile => (hfull.mem_files_iff file).1 hfile

/-- Replacing the records of `a` keeps its place; hidden and shown again, it comes last. -/
example (r : EditorRecord) :
    ((named "shown").after [.set "a" (some [r]), .set "b" (some [r]), .set "a" (some [r, r])]).files
        = ["a", "b"] ∧
      ((named "shown").after [.set "a" (some [r]), .set "b" (some [r]), .set "a" none,
        .set "a" (some [r])]).files = ["b", "a"] := by
  constructor <;> rfl

end Collection

end ElmOnSave
