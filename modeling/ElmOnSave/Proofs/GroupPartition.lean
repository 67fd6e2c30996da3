import ElmOnSave.Proofs.LexicalPaths
import ElmOnSave.Proofs.ShownRecords

/-!
# The groups partition the issues

The files of the groups are the files to which the issues lead, each once and in the order in which
they first came (`keys_groupByFile`), and with each file stand its issues in the order in which they
arrived, now naming the file they lead to (`entries_groupByFile`).

Groups are `Settled` when every issue names the file of its group and no such file leads further.
Putting settled groups behind one another and grouping the issues anew yields the same groups
(`groupByFile_flatten`), and seen from an absolute root what `groupByFile` yields is settled
(`settled_groupByFile`).
-/

namespace ElmOnSave

/-! ## First appearances -/

section EraseDups

variable {α β : Type} [DecidableEq β]

lemma eraseDups_concat (xs : List β) (x : β) :
    (xs ++ [x]).eraseDups = if x ∈ xs then xs.eraseDups else xs.eraseDups ++ [x] := by
  rw [List.eraseDups_append, List.cons_removeAll]
  by_cases h : x ∈ xs <;> simp [h, List.eraseDups_cons]

lemma eraseDups_of_forall_eq {xs : List β} {x : β} (hne : xs ≠ []) (h : ∀ y ∈ xs, y = x) :
    xs.eraseDups = [x] := by
  obtain ⟨y, ys, rfl⟩ := List.exists_cons_of_ne_nil hne
  obtain ⟨rfl, hys⟩ := List.forall_mem_cons.1 h
  have hnone : ys.filter (fun z => !z == y) = [] := by
    refine List.filter_eq_nil_iff.2 fun z hz => ?_
    simp [hys z hz]
  rw [List.eraseDups_cons, hnone, List.eraseDups_nil]

/-- In runs of one key each, the keys first appear in the order of the runs. -/
lemma eraseDups_flatMap {as : List α} {key : α → β} (hkeys : (as.map key).Nodup)
    {run : α → List β} (hne : ∀ a ∈ as, run a ≠ []) (hrun : ∀ a ∈ as, ∀ b ∈ run a, b = key a) :
    (as.flatMap run).eraseDups = as.map key := by
  induction as with
  | nil => rfl
  | cons a as ih =>
    obtain ⟨hkey, hrest⟩ := List.nodup_cons.1 hkeys
    obtain ⟨hne_a, hne⟩ := List.forall_mem_cons.1 hne
    obtain ⟨hrun_a, hrun⟩ := List.forall_mem_cons.1 hrun
    -- No key of a later run is met in the first one.
    have hlater : (as.flatMap run).removeAll (run a) = as.flatMap run := by
      refine List.filter_eq_self.2 fun b hb => ?_
      obtain ⟨a', ha', hb⟩ := List.mem_flatMap.1 hb
      have hfirst : b ∉ run a := by
        intro hmem
        have hsame : key a = key a' := (hrun_a b hmem).symm.trans (hrun a' ha' b hb)
        exact hkey (hsame ▸ List.mem_map_of_mem ha')
      simpa using hfirst
    rw [List.flatMap_cons, List.eraseDups_append, eraseDups_of_forall_eq hne_a hrun_a, hlater,
      ih hrest hne hrun, List.map_cons, List.singleton_append]

end EraseDups

/-! ## The groups -/

/-- The files of the groups are those the issues lead to, in the order in which they first come. -/
theorem keys_groupByFile (ds : List Diagnostic) (root : Option String) :
    (groupByFile ds root).keys = (ds.map fun d => issuePath d.file root).eraseDups := by
  induction ds using List.reverseRecOn with
  | nil => rfl
  | append_singleton ds d ih =>
    rw [groupByFile_concat, addToGroup, Register.keys_put, ih, List.map_append,
      List.map_singleton, eraseDups_concat]
    simp only [List.mem_eraseDups]

/-- With each file stand its issues, in the order in which they arrived. -/
theorem entries_groupByFile (ds : List Diagnostic) (root : Option String) :
    (groupByFile ds root).entries = (groupByFile ds root).keys.map fun file =>
      (file, (issuesAt ds root file).map (·.withFile file)) := by
  rw [Register.entries_eq_map_keys]
  refine List.map_congr_left fun file hfile => ?_
  rw [get?_groupByFile, if_neg ((mem_keys_groupByFile ds root file).1 hfile)]
  rfl

/-! ## Groups of groups -/

/-- Groups whose issues name the files of their groups, and whose files lead to themselves. -/
structure Settled (root : Option String) (groups : Register String (List Diagnostic)) : Prop where
  /-- Every group has an issue. -/
  nonempty : ∀ g ∈ groups.entries, g.2 ≠ []
  /-- Every issue names the file of its group. -/
  filed : ∀ g ∈ groups.entries, ∀ d ∈ g.2, d.file = g.1
  /-- Seen from the root, the file is where it leads. -/
  stays : ∀ g ∈ groups.entries, issuePath g.1 root = g.1

/-- What is found of a file among the issues of all groups is its group. -/
lemma issuesAt_flatMap {root : Option String} {es : List (String × List Diagnostic)}
    (hes : (Entries.keys es).Nodup) (lead : ∀ g ∈ es, ∀ d ∈ g.2, issuePath d.file root = g.1)
    (file : String) :
    issuesAt (es.flatMap Prod.snd) root file = (Entries.get? es file).getD [] := by
  induction es with
  | nil => rfl
  | cons g es ih =>
    obtain ⟨file', group⟩ := g
    obtain ⟨hkey, hrest⟩ := List.nodup_cons.1 hes
    obtain ⟨hgroup, hlater⟩ := List.forall_mem_cons.1 lead
    have happend : issuesAt (((file', group) :: es).flatMap Prod.snd) root file =
        issuesAt group root file ++ issuesAt (es.flatMap Prod.snd) root file := by
      rw [issuesAt, List.flatMap_cons, List.filter_append]
      rfl
    rw [happend, ih hrest hlater, Entries.get?]
    by_cases hfile : file' = file
    · have hall : issuesAt group root file = group :=
        List.filter_eq_self.2 fun d hd => decide_eq_true ((hgroup d hd).trans hfile)
      have hnone : Entries.get? es file = none :=
        (Entries.get?_eq_none_iff es file).2 (hfile ▸ hkey)
      rw [hall, hnone, if_pos hfile]
      exact List.append_nil _
    · have hnil : issuesAt group root file = [] :=
        (issuesAt_eq_nil_iff group root file).2 fun d hd h =>
          hfile ((hgroup d hd).symm.trans h)
      rw [hnil, if_neg hfile, List.nil_append]

section Settled

variable {root : Option String} {groups : Register String (List Diagnostic)}
  (settled : Settled root groups)

include settled

lemma Settled.lead : ∀ g ∈ groups.entries, ∀ d ∈ g.2, issuePath d.file root = g.1 := by
  intro g hg d hd
  rw [settled.filed g hg d hd, settled.stays g hg]

/-- **Settled groups are found again.** -/
theorem groupByFile_flatten : groupByFile groups.values.flatten root = groups := by
  have hflat : groups.values.flatten = groups.entries.flatMap Prod.snd := List.flatMap_def.symm
  have hkeys : (groupByFile groups.values.flatten root).keys = groups.keys := by
    rw [keys_groupByFile, hflat, List.map_flatMap]
    refine eraseDups_flatMap groups.nodup (fun g hg => ?_) fun g hg file hfile => ?_
    · simpa using settled.nonempty g hg
    · obtain ⟨d, hd, rfl⟩ := List.mem_map.1 hfile
      exact settled.lead g hg d hd
  refine Register.ext ?_
  rw [entries_groupByFile, hkeys, groups.entries_eq_map_keys]
  refine List.map_congr_left fun file hfile => Prod.ext rfl ?_
  have hgroup : issuesAt groups.values.flatten root file = (groups.get? file).getD [] := by
    rw [hflat]
    exact issuesAt_flatMap groups.nodup settled.lead file
  show (issuesAt groups.values.flatten root file).map (·.withFile file) = _
  rw [hgroup]
  cases hget : groups.get? file with
  | none => rfl
  | some group =>
    have hmem : (file, group) ∈ groups.entries :=
      (Entries.get?_eq_some_iff groups.nodup).1 hget
    refine (List.map_congr_left fun d hd => ?_).trans (List.map_id group)
    obtain rfl : d.file = file := settled.filed _ hmem d hd
    rfl

end Settled

/-- Seen from an absolute root, or from none, no file of a group leads further. -/
lemma settled_groupByFile (ds : List Diagnostic) {root : Option String}
    (absolute : ∀ r ∈ root, Path.isAbsoluteText r = true) :
    Settled root (groupByFile ds root) := by
  have hentry : ∀ g ∈ (groupByFile ds root).entries, issuesAt ds root g.1 ≠ [] ∧
      g.2 = (issuesAt ds root g.1).map (·.withFile g.1) := by
    intro g hg
    rw [entries_groupByFile] at hg
    obtain ⟨file, hfile, rfl⟩ := List.mem_map.1 hg
    exact ⟨(mem_keys_groupByFile ds root file).1 hfile, rfl⟩
  refine ⟨fun g hg => ne_nil_of_mem_groupByFile hg, fun g hg d hd => ?_, fun g hg => ?_⟩
  · rw [(hentry g hg).2] at hd
    obtain ⟨d', -, rfl⟩ := List.mem_map.1 hd
    rfl
  · obtain ⟨d, hd⟩ := List.exists_mem_of_ne_nil _ (hentry g hg).1
    have hlead : issuePath d.file root = g.1 := of_decide_eq_true (List.mem_filter.1 hd).2
    cases root with
    | none => rfl
    | some r => rw [← hlead, issuePath_issuePath (absolute r rfl)]

/-- **Grouping partitions the issues.**  The files of the groups are the files the issues lead to,
each once and in the order in which they first come; the group of a file holds the issues that lead
to it in the order in which they arrived, unchanged but for the file they name.  No group is empty,
the sizes of the groups sum to the number of issues, and the groups put behind one another are
grouped as they are, seen from an absolute root. -/
theorem groupByFile_partitions (ds : List Diagnostic) (root : Option String) :
    (groupByFile ds root).keys = (ds.map fun d => issuePath d.file root).eraseDups ∧
    (groupByFile ds root).entries = (groupByFile ds root).keys.map (fun file =>
      (file, (ds.filter fun d => issuePath d.file root = file).map fun d => { d with file })) ∧
    (∀ group ∈ (groupByFile ds root).values, group ≠ []) ∧
    ((groupByFile ds root).values.map List.length).sum = ds.length ∧
    ((∀ r ∈ root, Path.isAbsoluteText r = true) →
      groupByFile (groupByFile ds root).values.flatten root = groupByFile ds root) := by
  refine ⟨keys_groupByFile ds root, entries_groupByFile ds root, fun group hgroup => ?_, ?_,
    fun absolute => groupByFile_flatten (settled_groupByFile ds absolute)⟩
  · obtain ⟨g, hg, rfl⟩ := List.mem_map.1 hgroup
    exact ne_nil_of_mem_groupByFile hg
  · have hsum := sum_groupSizes ds root
    rw [sum_map_groupSizes] at hsum
    rw [Register.values, List.map_map]
    exact hsum

/-- Issues of two files, one of which is spelled in two ways. -/
def issuesOfTwoFiles : List Diagnostic :=
  [.ofProject "first" "" "./src/A.elm", .ofProject "second" "" "src/B.elm",
    .ofProject "third" "" "src//A.elm"]

/-- Both spellings of a file share a group, whatever comes between them. -/
theorem spellings_share_group :
    let groups := groupByFile issuesOfTwoFiles (some "/app")
    (∀ r ∈ some "/app", Path.isAbsoluteText r = true) ∧
      groups.keys = ["/app/src/A.elm", "/app/src/B.elm"] ∧
      groups.values.map List.length = [2, 1] ∧
      groupByFile groups.values.flatten (some "/app") = groups := by
  have absolute : ∀ r ∈ some "/app", Path.isAbsoluteText r = true := by decide +kernel
  obtain ⟨-, -, -, -, again⟩ := groupByFile_partitions issuesOfTwoFiles (some "/app")
  exact ⟨absolute, by decide +kernel, by decide +kernel, again absolute⟩

end ElmOnSave
