import Mathlib
import ElmOnSave.Publisher

/-!
# Groups of issues by file

The issues of a file are those whose path leads to it (`issuesAt`), and what a collection is given
for the file are their records (`recordsAt`), both in the order in which the issues arrived.  The
lemmas here say what collecting, showing and hiding groups does in these terms, so that nothing
further on opens a fold:

* `get?_groupByFile`: the group of a file is `issuesAt`, and a file without issues has none;
* `get?_showGroups`: a collection given the groups shows `recordsAt` for every file that has issues
  and leaves the other files alone;
* `get?_hideFiles`: hidden files have no entry;
* `sum_groupSizes`: the sizes of the groups sum to the number of issues.
-/

namespace ElmOnSave

/-- The issues whose path, seen from a root, leads to a file. -/
def issuesAt (ds : List Diagnostic) (root : Option String) (file : String) : List Diagnostic :=
  ds.filter fun d => issuePath d.file root = file

/-- The records of a file's issues, labelled with their source. -/
def recordsAt (source : String) (ds : List Diagnostic) (root : Option String) (file : String) :
    List EditorRecord :=
  (issuesAt ds root file).map (·.toEditor (some source))

lemma issuesAt_eq_nil_iff (ds : List Diagnostic) (root : Option String) (file : String) :
    issuesAt ds root file = [] ↔ ∀ d ∈ ds, issuePath d.file root ≠ file := by
  simp [issuesAt]

@[simp] lemma recordsAt_eq_nil_iff (source : String) (ds : List Diagnostic)
    (root : Option String) (file : String) :
    recordsAt source ds root file = [] ↔ issuesAt ds root file = [] := by
  simp [recordsAt]

lemma issuesAt_concat (ds : List Diagnostic) (d : Diagnostic) (root : Option String)
    (file : String) :
    issuesAt (ds ++ [d]) root file =
      issuesAt ds root file ++ if issuePath d.file root = file then [d] else [] := by
  by_cases h : issuePath d.file root = file <;> simp [issuesAt, h]

/-- The record of an issue does not depend on the file it is filed under. -/
@[simp] lemma toEditor_withFile (d : Diagnostic) (file : String) (source : Option String) :
    (d.withFile file).toEditor source = d.toEditor source := rfl

/-! ## Collecting -/

lemma groupByFile_concat (ds : List Diagnostic) (d : Diagnostic) (root : Option String) :
    groupByFile (ds ++ [d]) root = addToGroup root (groupByFile ds root) d := by
  rw [groupByFile, groupByFile, List.foldl_append]
  rfl

lemma get?_addToGroup (root : Option String) (groups : Register String (List Diagnostic))
    (d : Diagnostic) (file : String) :
    (addToGroup root groups d).get? file =
      if issuePath d.file root = file
      then some ((groups.get? file).getD [] ++ [d.withFile file]) else groups.get? file := by
  rw [addToGroup, Register.get?_put]
  split
  · rename_i h
    rw [h]
  · rfl

/-- The group of a file holds exactly its issues; a file without issues has no group. -/
theorem get?_groupByFile (ds : List Diagnostic) (root : Option String) (file : String) :
    (groupByFile ds root).get? file =
      if issuesAt ds root file = [] then none
      else some ((issuesAt ds root file).map (·.withFile file)) := by
  induction ds using List.reverseRecOn with
  | nil => rfl
  | append_singleton ds d ih =>
    rw [groupByFile_concat, get?_addToGroup, issuesAt_concat, ih]
    by_cases h : issuePath d.file root = file
    · by_cases hnil : issuesAt ds root file = [] <;> simp [h, hnil]
    · simp [h]

theorem mem_keys_groupByFile (ds : List Diagnostic) (root : Option String) (file : String) :
    file ∈ (groupByFile ds root).keys ↔ issuesAt ds root file ≠ [] := by
  rw [← Decidable.not_not (p := file ∈ _), ← Register.get?_eq_none_iff, get?_groupByFile]
  simp

/-! ## Showing and hiding -/

/-- A fold of writes over entries with distinct keys shows for each key what was written for it. -/
lemma get?_foldl_set {α : Type} (records : α → List EditorRecord) {es : List (String × α)}
    (hes : (Entries.keys es).Nodup) (c : Collection) (file : String) :
    (es.foldl (fun c e => c.set e.1 (records e.2)) c).get? file =
      match Entries.get? es file with
      | some a => if records a = [] then none else some (records a)
      | none => c.get? file := by
  induction es generalizing c with
  | nil => rfl
  | cons e es ih =>
    obtain ⟨k, a⟩ := e
    obtain ⟨hk, htail⟩ := List.nodup_cons.1 hes
    rw [List.foldl_cons, ih htail]
    by_cases hkf : k = file
    · subst hkf
      have hnone : Entries.get? es k = none := (Entries.get?_eq_none_iff es k).2 hk
      simp [Entries.get?, hnone, Collection.get?_set]
    · cases hget : Entries.get? es file <;> simp [Entries.get?, hkf, hget, Collection.get?_set]

/-- Showing the groups replaces the records of every file that has issues, and of no other. -/
theorem get?_showGroups (source : String) (c : Collection) (ds : List Diagnostic)
    (root : Option String) (file : String) :
    (Publisher.showGroups source c (groupByFile ds root)).get? file =
      if recordsAt source ds root file = [] then c.get? file
      else some (recordsAt source ds root file) := by
  have hfold := get?_foldl_set (fun issues => issues.map (·.toEditor (some source)))
    (groupByFile ds root).nodup c file
  have hgroup := get?_groupByFile ds root file
  rw [Register.get?] at hgroup
  rw [Publisher.showGroups, hfold, hgroup]
  by_cases hnil : issuesAt ds root file = []
  · simp [hnil]
  · simp [hnil, recordsAt]

theorem get?_hideFiles (c : Collection) (files : List String) (file : String) :
    (Publisher.hideFiles c files).get? file = if file ∈ files then none else c.get? file := by
  induction files generalizing c with
  | nil => rfl
  | cons f fs ih =>
    have hcons : Publisher.hideFiles c (f :: fs) = Publisher.hideFiles (c.set f []) fs := rfl
    rw [hcons, ih, Collection.get?_set]
    by_cases hf : f = file
    · simp [hf]
    · have hf' : ¬ file = f := fun h => hf h.symm
      simp [hf, hf']

/-! ## Sizes -/

/-- The number of issues in all groups. -/
def groupedCount (es : List (String × List Diagnostic)) : Nat :=
  (es.map fun e => e.2.length).sum

lemma sum_map_groupSizes (groups : Register String (List Diagnostic)) :
    ((Publisher.groupSizes groups).map Prod.snd).sum = groupedCount groups.entries := by
  rw [Publisher.groupSizes, List.map_map]
  rfl

/-- Writing a group changes the total by the difference to the group that was there. -/
lemma groupedCount_put (es : List (String × List Diagnostic)) (file : String)
    (ds : List Diagnostic) :
    groupedCount (Entries.put es file ds) + ((Entries.get? es file).getD []).length =
      groupedCount es + ds.length := by
  induction es with
  | nil => simp [groupedCount, Entries.put, Entries.get?]
  | cons e es ih =>
    obtain ⟨file', ds'⟩ := e
    simp only [groupedCount] at ih ⊢
    by_cases h : file' = file
    · simp [Entries.put, Entries.get?, h]
      omega
    · simp only [Entries.put, Entries.get?, h, if_false, List.map_cons, List.sum_cons]
      omega

lemma groupedCount_addToGroup (root : Option String)
    (groups : Register String (List Diagnostic)) (d : Diagnostic) :
    groupedCount (addToGroup root groups d).entries = groupedCount groups.entries + 1 := by
  have hput := groupedCount_put groups.entries (issuePath d.file root)
    ((groups.get? (issuePath d.file root)).getD [] ++ [d.withFile (issuePath d.file root)])
  have hentries : (addToGroup root groups d).entries = Entries.put groups.entries
      (issuePath d.file root)
      ((groups.get? (issuePath d.file root)).getD [] ++ [d.withFile (issuePath d.file root)]) := rfl
  rw [List.length_append, List.length_singleton, ← hentries, Register.get?] at hput
  omega

/-- Every issue is in exactly one group. -/
theorem sum_groupSizes (ds : List Diagnostic) (root : Option String) :
    ((Publisher.groupSizes (groupByFile ds root)).map Prod.snd).sum = ds.length := by
  rw [sum_map_groupSizes]
  induction ds using List.reverseRecOn with
  | nil => rfl
  | append_singleton ds d ih =>
    rw [groupByFile_concat, groupedCount_addToGroup, ih, List.length_append,
      List.length_singleton]

end ElmOnSave
