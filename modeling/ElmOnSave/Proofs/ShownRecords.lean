import ElmOnSave.Proofs.JsonRoundTrip
import ElmOnSave.Proofs.Grouping
import ElmOnSave.Proofs.WholeSave

/-!
# The records a first save shows

A collection that is given the groups of some issues shows each issue once: its records are those of
the issues, in another order (`allRecords_showGroups_perm`).  Nothing is lost when a file comes up
again (`flatten_put_perm`), and nothing overwrites anything, since the files of the groups are
distinct and the collection was empty (`entries_showGroups`).

`shown_of_first_save` says what this is applied to: after the first save of a publisher the compiler
collection was given what the run reports, and the analyzer collection the issues of the analyzer.
-/

namespace ElmOnSave

/-- The records of all files. -/
def allRecords (files : Register String (List EditorRecord)) : List EditorRecord :=
  files.values.flatten

/-! ## Groups -/

/-- An item added to the list of a key is one item more. -/
lemma flatten_put_perm {κ α : Type} [DecidableEq κ] (es : List (κ × List α)) (k : κ) (x : α) :
    ((Entries.put es k ((Entries.get? es k).getD [] ++ [x])).map Prod.snd).flatten.Perm
      ((es.map Prod.snd).flatten ++ [x]) := by
  induction es with
  | nil => simp [Entries.put, Entries.get?]
  | cons e es ih =>
    obtain ⟨k', xs⟩ := e
    rw [Entries.put, Entries.get?]
    split
    · simp only [Option.getD_some, List.map_cons, List.flatten_cons, List.append_assoc]
      exact List.perm_append_comm.append_left xs
    · simp only [List.map_cons, List.flatten_cons, List.append_assoc]
      exact ih.append_left xs

/-- Every issue is in one group, and only its file has changed. -/
lemma toEditor_groupByFile_perm (ds : List Diagnostic) (root source : Option String) :
    ((groupByFile ds root).values.flatten.map (·.toEditor source)).Perm
      (ds.map (·.toEditor source)) := by
  induction ds using List.reverseRecOn with
  | nil => exact .refl _
  | append_singleton ds d ih =>
    have hput := (flatten_put_perm (groupByFile ds root).entries (issuePath d.file root)
      (d.withFile (issuePath d.file root))).map (·.toEditor source)
    rw [List.map_append, List.map_singleton, toEditor_withFile] at hput
    rw [groupByFile_concat, List.map_append]
    exact hput.trans (ih.append_right _)

lemma ne_nil_of_mem_groupByFile {ds : List Diagnostic} {root : Option String}
    {g : String × List Diagnostic} (h : g ∈ (groupByFile ds root).entries) : g.2 ≠ [] := by
  have hget : (groupByFile ds root).get? g.1 = some g.2 :=
    (Entries.get?_eq_some_iff (groupByFile ds root).nodup).2 h
  rw [get?_groupByFile] at hget
  split at hget
  · cases hget
  · rename_i hne
    rw [← Option.some.inj hget]
    simpa using hne

/-! ## Collections given groups -/

lemma entries_set_of_not_mem {c : Collection} {file : String} {rs : List EditorRecord}
    (hfile : file ∉ c.files) (hrs : rs ≠ []) :
    (c.set file rs).entries.entries = c.entries.entries ++ [(file, rs)] := by
  rw [Collection.set, if_neg (by simpa using hrs)]
  exact Entries.put_of_not_mem rs hfile

/-- Groups with files of their own are shown behind what is there. -/
lemma entries_foldl_set {α : Type} (records : α → List EditorRecord) {es : List (String × α)}
    (hes : (Entries.keys es).Nodup) (hne : ∀ e ∈ es, records e.2 ≠ []) (c : Collection)
    (hnew : ∀ e ∈ es, e.1 ∉ c.files) :
    (es.foldl (fun c e => c.set e.1 (records e.2)) c).entries.entries =
      c.entries.entries ++ es.map fun e => (e.1, records e.2) := by
  induction es generalizing c with
  | nil => simp
  | cons e es ih =>
    obtain ⟨hfirst, htail⟩ := List.nodup_cons.1 hes
    rw [List.forall_mem_cons] at hne hnew
    have hset := entries_set_of_not_mem hnew.1 hne.1
    have hnew' : ∀ e' ∈ es, e'.1 ∉ (c.set e.1 (records e.2)).files := by
      intro e' he' hmem
      rw [Collection.files, Register.keys, hset, Entries.keys, List.map_append] at hmem
      rcases List.mem_append.1 hmem with hmem | hmem
      · exact hnew.2 e' he' hmem
      · exact hfirst (List.mem_singleton.1 hmem ▸ List.mem_map_of_mem he')
    rw [List.foldl_cons, ih htail hne.2 _ hnew', hset]
    simp

/-- An empty collection given the groups of issues shows the records of each group at its file. -/
lemma entries_showGroups (source name : String) (ds : List Diagnostic) (root : Option String) :
    (Publisher.showGroups source (.named name) (groupByFile ds root)).entries.entries =
      (groupByFile ds root).entries.map fun g => (g.1, g.2.map (·.toEditor (some source))) := by
  have hfold := entries_foldl_set (fun issues => issues.map (·.toEditor (some source)))
    (groupByFile ds root).nodup (fun g hg => by simpa using ne_nil_of_mem_groupByFile hg)
    (.named name) (fun g _ => List.not_mem_nil)
  exact hfold

/-- **Every issue has its record, and there is no other.** -/
theorem allRecords_showGroups_perm (source name : String) (ds : List Diagnostic)
    (root : Option String) :
    (allRecords (Publisher.showGroups source (.named name) (groupByFile ds root)).entries).Perm
      (ds.map (·.toEditor (some source))) := by
  have hrecords : allRecords (Publisher.showGroups source (.named name)
      (groupByFile ds root)).entries =
      (groupByFile ds root).values.flatten.map (·.toEditor (some source)) := by
    rw [allRecords, Register.values, entries_showGroups, Register.values, List.map_flatten,
      List.map_map, List.map_map]
    rfl
  rw [hrecords]
  exact toEditor_groupByFile_perm ds root (some source)

/-! ## The first save -/

namespace Publisher

section

variable {m : Machine} {config : Config} {issues : AnalyzerIssues} {workspace : Option String}
  {compilerName analyzerName : String} {d : SavedDocument} {root : Option String}
  {result : RunResult}

/-- What a publisher shows after its first save, if the run returned. -/
theorem shown_of_first_save [Platform]
    (handled : (initial config issues workspace compilerName analyzerName).handles d = true)
    (hroot : (initial config issues workspace compilerName analyzerName).analyzerRoot m
      (Path.absText m.cwd d.path) = .ok root)
    (hresult : ((initial config issues workspace compilerName analyzerName).outcome m
      (Path.absText m.cwd d.path)).result = .ok result) :
    let p := initial config issues workspace compilerName analyzerName
    (p.save m d).1.compilerShown = showGroups compilerSource (.named compilerName)
        (groupByFile result.diagnostics (some result.projectRoot.text)) ∧
      (p.save m d).1.analyzerShown = showGroups analyzerSource (.named analyzerName)
        (groupByFile issues.issues root) := by
  intro p
  have hending : (p.outcome m (Path.absText m.cwd d.path)).ending = .returned result := by
    rw [RunOutcome.ending, hresult]
  rw [save_of_root handled hroot]
  simp only [p, hending, endRun_returned_of_not_discards _ _ (not_discards_beginRun _ _ root)]
  exact ⟨rfl, by simp only [release_analyzerShown]; rfl⟩

end

end Publisher

end ElmOnSave
