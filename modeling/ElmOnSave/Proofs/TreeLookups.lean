import ElmOnSave.Proofs.EscapingFaults
import ElmOnSave.Proofs.LexicalPaths

/-!
# What stands where in a file tree

An operating system walks a path name by name.  In a tree in which everything stands in a directory
(`FileTree.IsProper`) the walk along plain names ends at the node that the tree has for these names:
`node?_of_walk` and `walk_of_node?` are the two directions, both by induction on the names.

A question about an absolute path without `..` is therefore answered from this node, if it is
answered at all (`stat_eq_ok_iff`, `ask_eq_ok`).
-/

namespace ElmOnSave

/-! ## Trees -/

namespace FileTree

/-- Everything in a tree stands in a directory, and no name holds a null character. -/
structure IsProper (t : FileTree) : Prop where
  parent : ∀ e ∈ t.nodes, (t.node? e.1.dropLast).any Node.isDirectory = true
  null : ∀ e ∈ t.nodes, ∀ name ∈ e.1, nullCharacter ∉ name.toList

variable {t : FileTree}

lemma node?_of_ne_nil {names : List String} (h : names ≠ []) :
    t.node? names = t.nodes.lookup names :=
  if_neg h

lemma eq_directory_of_any {n : Option Node} (h : n.any Node.isDirectory = true) :
    n = some .directory := by
  cases n with
  | none => cases h
  | some n => cases n <;> first | rfl | cases h

section Proper

variable (proper : t.IsProper)

include proper

lemma IsProper.node?_dropLast {names : List String} {n : Node} (hnames : names ≠ [])
    (h : t.node? names = some n) : t.node? names.dropLast = some .directory := by
  rw [node?_of_ne_nil hnames, List.lookup_eq_some_iff] at h
  obtain ⟨before, after, hnodes, -⟩ := h
  exact eq_directory_of_any (proper.parent (names, n) (by simp [hnodes]))

/-- What stands on the way to a node is a directory.  The induction is on the names that follow,
from the last one on. -/
lemma IsProper.node?_above {names rest : List String} {n : Node} (hrest : rest ≠ [])
    (h : t.node? (names ++ rest) = some n) : t.node? names = some .directory := by
  induction rest using List.reverseRecOn generalizing n with
  | nil => exact absurd rfl hrest
  | append_singleton rest name ih =>
    have hparent := proper.node?_dropLast (by simp) h
    rw [← List.append_assoc, List.dropLast_concat] at hparent
    by_cases hnil : rest = []
    · rwa [hnil, List.append_nil] at hparent
    · exact ih hnil hparent

lemma IsProper.null_not_mem {names : List String} {n : Node} (h : t.node? names = some n) :
    ∀ name ∈ names, nullCharacter ∉ name.toList := by
  intro name hname
  have hnames : names ≠ [] := List.ne_nil_of_mem hname
  rw [node?_of_ne_nil hnames, List.lookup_eq_some_iff] at h
  obtain ⟨before, after, hnodes, -⟩ := h
  exact proper.null (names, n) (by simp [hnodes]) name hname

end Proper

/-! ## Walks -/

/-- Names that lead on: each counts, and none leads back. -/
def Plain (names : List String) : Prop :=
  ∀ name ∈ names, name ≠ "" ∧ name ≠ "." ∧ name ≠ ".."

lemma Plain.tail {name : String} {names : List String} (h : Plain (name :: names)) :
    Plain names :=
  fun n hn => h n (List.mem_cons_of_mem name hn)

/-- A plain name leads to what the tree has for it, unless it is too long. -/
lemma step_of_plain {name : String} (plain : name ≠ "" ∧ name ≠ "." ∧ name ≠ "..")
    (here : List String) :
    t.step (here, .directory) name =
      if nameLimit < name.utf8ByteSize then .error .nameTooLong
      else (t.node? (here ++ [name])).elim (.error .noEntry) fun n => .ok (here ++ [name], n) := by
  obtain ⟨hempty, hpoint, hdots⟩ := plain
  simp only [step, Node.isDirectory, Bool.not_true, Bool.false_eq_true, if_false, hempty, hpoint,
    or_self, hdots]
  cases t.node? (here ++ [name]) <;> rfl

/-- The walk stops at what the tree has for the names. -/
lemma node?_of_walk {names : List String} (plain : Plain names) {here : List String} {n : Node}
    (hhere : t.node? here = some n) {found : List String × Node}
    (h : t.walk (here, n) names = .ok found) :
    found.1 = here ++ names ∧ t.node? (here ++ names) = some found.2 := by
  induction names generalizing here n with
  | nil =>
    cases h
    rw [List.append_nil]
    exact ⟨rfl, hhere⟩
  | cons name names ih =>
    rw [walk] at h
    cases n with
    | file | device => cases h
    | directory =>
      rw [step_of_plain (plain name (List.mem_cons_self ..))] at h
      split_ifs at h with hlong
      cases hnext : t.node? (here ++ [name]) with
      | none =>
        rw [hnext] at h
        cases h
      | some n =>
        rw [hnext] at h
        have hfound := ih plain.tail hnext h
        rwa [List.append_assoc, List.singleton_append] at hfound

/-- What the tree has for the names is reached, unless a name is too long. -/
lemma IsProper.walk_of_node? (proper : t.IsProper) {names : List String} (plain : Plain names)
    {here : List String} {n found : Node} (hhere : t.node? here = some n)
    (h : t.node? (here ++ names) = some found) :
    t.walk (here, n) names = .ok (here ++ names, found) ∨
      t.walk (here, n) names = .error .nameTooLong := by
  induction names generalizing here n with
  | nil =>
    rw [List.append_nil] at h ⊢
    rw [hhere] at h
    cases h
    exact .inl rfl
  | cons name names ih =>
    have hdirectory := proper.node?_above (List.cons_ne_nil name names) h
    rw [hhere] at hdirectory
    cases hdirectory
    rw [walk, step_of_plain (plain name (List.mem_cons_self ..))]
    split_ifs with hlong
    · exact .inr rfl
    · have hsplit : here ++ name :: names = here ++ [name] ++ names := by simp
      rw [hsplit] at h ⊢
      obtain ⟨next, hnext⟩ : ∃ next, t.node? (here ++ [name]) = some next := by
        by_cases hnames : names = []
        · rw [hnames, List.append_nil] at h
          exact ⟨found, h⟩
        · exact ⟨_, proper.node?_above hnames h⟩
      rw [hnext]
      exact ih plain.tail hnext h

/-- A walk finds a name too long only if one is. -/
lemma walk_ne_nameTooLong {names : List String}
    (short : ∀ name ∈ names, name.utf8ByteSize ≤ nameLimit) (here : List String × Node) :
    t.walk here names ≠ .error .nameTooLong := by
  induction names generalizing here with
  | nil => exact nofun
  | cons name names ih =>
    have hname := short name (List.mem_cons_self ..)
    have hstep : t.step here name ≠ .error .nameTooLong := by
      fun_cases step t here name with
      | case4 _ _ _ hlong => exact absurd hlong (Nat.not_lt.2 hname)
      | _ => simp_all
    rw [walk]
    split
    · exact ih (fun n hn => short n (List.mem_cons_of_mem name hn)) _
    · rename_i e he
      rintro ⟨⟩
      exact hstep he

end FileTree

/-! ## Questions about absolute paths -/

namespace Path

/-- An absolute path whose names count and lead on. -/
structure IsDirect (p : Path) : Prop where
  absolute : p.isAbsolute = true
  formed : p.WellFormed
  normal : ".." ∉ p.names

variable {p : Path}

lemma IsDirect.plain (h : p.IsDirect) : FileTree.Plain p.names := by
  intro name hname
  have hcounts := (h.formed name hname).1
  simp only [isName, Bool.and_eq_true, bne_iff_ne] at hcounts
  exact ⟨hcounts.1, hcounts.2, fun hdots => h.normal (hdots ▸ hname)⟩

/-- A file in a directory that such a path leads through is told by such a path. -/
lemma IsDirect.child {d : Path} (direct : p.IsDirect) (anchor : d.anchor = p.anchor)
    (above : d.names <+: p.names) {name : String} (named : isName name = true)
    (slash : '/' ∉ name.toList) (down : name ≠ "..") :
    IsDirect ⟨d.anchor, d.names ++ [name]⟩ := by
  refine ⟨?_, fun n hn => ?_, fun hdots => ?_⟩
  · rw [isAbsolute, anchor]
    exact direct.absolute
  · obtain hn | hn := List.mem_append.1 hn
    · exact direct.formed n (above.subset hn)
    · rw [List.mem_singleton.1 hn]
      exact ⟨named, slash⟩
  · obtain hdots | hdots := List.mem_append.1 hdots
    · exact direct.normal (above.subset hdots)
    · exact down (List.mem_singleton.1 hdots).symm

/-- A walk from the root passes over the empty pieces that a spelling starts with. -/
lemma walk_pieces_text (t : FileTree) (h : p.IsDirect) :
    t.walk ([], .directory) (pieces p.text.toList) = t.walk ([], .directory) p.names := by
  have hskip : ∀ cs : List Char, t.walk ([], .directory) (pieces ('/' :: cs)) =
      t.walk ([], .directory) (pieces cs) := by
    intro cs
    have hcons : pieces ('/' :: cs) = "" :: pieces cs := pieces_append_cons [] cs
    rw [hcons]
    rfl
  have hbody : t.walk ([], .directory) (pieces (String.intercalate "/" p.names).toList) =
      t.walk ([], .directory) p.names := by
    by_cases hnil : p.names = []
    · rw [hnil]
      rfl
    · rw [pieces_intercalate (fun n hn => (h.formed n hn).2) hnil]
  rw [(components_text h.formed h.absolute).2, String.toList_append]
  cases p.anchor with
  | relative => exact hbody
  | root => exact (hskip _).trans hbody
  | doubleRoot => exact (hskip _).trans ((hskip _).trans hbody)

end Path

section Questions

variable {m : Machine} {p : Path} {question : Node → Bool} {b : Bool} {n : Node}

/-- A character of joined names is a slash or stands in a name. -/
lemma eq_slash_or_mem_of_mem_intercalate {names : List String} {c : Char}
    (h : c ∈ (String.intercalate "/" names).toList) : c = '/' ∨ ∃ name ∈ names, c ∈ name.toList := by
  rw [String.toList_intercalate] at h
  induction names with
  | nil => cases h
  | cons name names ih =>
    cases names with
    | nil => exact .inr ⟨name, List.mem_cons_self .., by simpa using h⟩
    | cons next names =>
      rw [List.map_cons, List.map_cons, List.intercalate_cons_cons, List.mem_append,
        List.mem_append] at h
      obtain (hname | hslash) | hrest := h
      · exact .inr ⟨name, List.mem_cons_self .., hname⟩
      · exact .inl (by simpa using hslash)
      · refine (ih hrest).imp_right ?_
        rintro ⟨other, hother, hc⟩
        exact ⟨other, List.mem_cons_of_mem name hother, hc⟩

lemma null_not_mem_text (direct : p.IsDirect)
    (h : ∀ name ∈ p.names, nullCharacter ∉ name.toList) : nullCharacter ∉ p.text.toList := by
  intro hnull
  rw [(Path.components_text direct.formed direct.absolute).2, String.toList_append,
    List.mem_append] at hnull
  obtain hanchor | hnames := hnull
  · revert hanchor
    cases p.anchor <;> decide
  · obtain hslash | ⟨name, hname, hmem⟩ := eq_slash_or_mem_of_mem_intercalate hnames
    · revert hslash
      decide
    · exact h name hname hmem

/-- An absolute path is looked up from the root. -/
lemma stat_text (m : Machine) (direct : p.IsDirect) (hnull : nullCharacter ∉ p.text.toList)
    (short : ¬ FileTree.pathLimit ≤ p.text.utf8ByteSize) :
    m.stat p.text =
      match m.tree.walk ([], .directory) p.names with
      | .ok found => .ok found.2
      | .error e => .error (.system e) := by
  have habsolute : Path.isAbsoluteText p.text = true := by
    rw [← Path.isAbsolute_ofString, Path.ofString_text direct.formed, direct.absolute]
  have hempty : p.text ≠ "" := by
    intro hempty
    rw [hempty] at habsolute
    revert habsolute
    decide
  have hclean : ¬ p.text.toList.contains (Char.ofNat 0) = true := by
    simpa [nullCharacter] using hnull
  rw [Machine.stat, Machine.statFrom, if_neg hclean, if_neg hempty, if_neg short, habsolute]
  simp only [if_true, FileTree.node?, Path.walk_pieces_text m.tree direct]
  cases m.tree.walk ([], .directory) p.names <;> rfl

lemma stat_of_long {path : String} (hnull : nullCharacter ∉ path.toList)
    (long : FileTree.pathLimit ≤ path.utf8ByteSize) :
    m.stat path = .error (.system .nameTooLong) := by
  have hclean : ¬ path.toList.contains (Char.ofNat 0) = true := by
    simpa [nullCharacter] using hnull
  have hempty : path ≠ "" := by
    rintro rfl
    revert long
    decide
  rw [Machine.stat, Machine.statFrom, if_neg hclean, if_neg hempty, if_pos long]
  rfl

lemma stat_of_null {path : String} (hnull : nullCharacter ∈ path.toList) :
    m.stat path = .error .nullByte := by
  rw [Machine.stat, (statFrom_eq_nullByte_iff m.cwdNames path).2 hnull]
  rfl

variable (proper : m.tree.IsProper) (direct : p.IsDirect)

include direct in
/-- A path that leads somewhere leads to what the tree has for it. -/
lemma node?_of_stat (h : m.stat p.text = .ok n) : m.tree.node? p.names = some n := by
  by_cases hnull : nullCharacter ∈ p.text.toList
  · rw [stat_of_null hnull] at h
    cases h
  by_cases hlong : FileTree.pathLimit ≤ p.text.utf8ByteSize
  · rw [stat_of_long hnull hlong] at h
    cases h
  rw [stat_text m direct hnull hlong] at h
  cases hwalk : m.tree.walk ([], .directory) p.names with
  | error e =>
    rw [hwalk] at h
    cases h
  | ok found =>
    rw [hwalk] at h
    cases h
    exact (FileTree.node?_of_walk direct.plain rfl hwalk).2

include proper direct

/-- What the tree has for a path is what the path leads to, unless the path is too long. -/
lemma stat_of_node? (h : m.tree.node? p.names = some n) :
    m.stat p.text = .ok n ∨ m.stat p.text = .error (.system .nameTooLong) := by
  have hnull := null_not_mem_text direct (proper.null_not_mem h)
  by_cases hlong : FileTree.pathLimit ≤ p.text.utf8ByteSize
  · exact .inr (stat_of_long hnull hlong)
  rw [stat_text m direct hnull hlong]
  have hroot : m.tree.node? [] = some .directory := rfl
  refine (proper.walk_of_node? direct.plain hroot h).imp ?_ ?_
  all_goals
    intro hwalk
    rw [hwalk]

/-- Where a question about a path has an answer, the path leads to what the tree has for it. -/
lemma stat_eq_ok_iff (answered : m.ask question p = .ok b) :
    m.stat p.text = .ok n ↔ m.tree.node? p.names = some n := by
  refine ⟨node?_of_stat direct, fun h => (stat_of_node? proper direct h).resolve_right ?_⟩
  intro hlong
  rw [Machine.ask, hlong] at answered
  cases answered

/-- The answer to a question about a path is read off the tree. -/
lemma ask_eq_ok (answered : m.ask question p = .ok b) :
    b = (m.tree.node? p.names).any question := by
  cases hstat : m.stat p.text with
  | ok n =>
    rw [(stat_eq_ok_iff proper direct answered).1 hstat]
    rw [Machine.ask, hstat] at answered
    exact (Except.ok.inj answered).symm
  | error e =>
    have hnode : m.tree.node? p.names = none := by
      rw [Option.eq_none_iff_forall_ne_some]
      intro n hnode
      rw [(stat_eq_ok_iff proper direct answered).2 hnode] at hstat
      cases hstat
    rw [Machine.ask, hstat] at answered
    rw [hnode]
    split at answered
    · rename_i heq
      cases heq
    · cases answered
    · cases answered
      rfl

omit proper in
/-- A question has no answer only if the path is too long. -/
lemma exists_answer (m : Machine) (question : Node → Bool)
    (names : ∀ name ∈ p.names, name.utf8ByteSize ≤ FileTree.nameLimit)
    (short : p.text.utf8ByteSize < FileTree.pathLimit) : ∃ b, m.ask question p = .ok b := by
  have hstat : m.stat p.text ≠ .error (.system .nameTooLong) := by
    by_cases hnull : nullCharacter ∈ p.text.toList
    · rw [stat_of_null hnull]
      exact nofun
    · have hwalk := FileTree.walk_ne_nameTooLong (t := m.tree) names ([], .directory)
      rw [stat_text m direct hnull (Nat.not_le.2 short)]
      cases hfound : m.tree.walk ([], .directory) p.names with
      | ok found => exact nofun
      | error e =>
        rw [hfound] at hwalk
        simpa using hwalk
  unfold Machine.ask
  split
  · exact ⟨_, rfl⟩
  · rename_i hlong
    exact absurd hlong hstat
  · exact ⟨_, rfl⟩

/-- The content of a file that was asked about is read off the tree. -/
lemma readFile_text (answered : m.ask question p = .ok b) {content : Octets} {mode : Nat}
    {program : Option Program} (h : m.tree.node? p.names = some (.file content mode program)) :
    m.readFile p.text = .ok content := by
  rw [Machine.readFile, (stat_eq_ok_iff proper direct answered).2 h]

end Questions

end ElmOnSave
