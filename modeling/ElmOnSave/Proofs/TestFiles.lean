import ElmOnSave.Project.TestFile
import ElmOnSave.Proofs.Paths

/-!
# Where test files lie

A file is a test file if one of its directories has the name of the directories for tests
(`InTests`).  Seen from a root, only the directories below the root count, where a path lies below
another one name by name and not letter by letter (`Path.LiesBelow`); a path that does not lie below
the root is seen as a whole.

`Path.below?_eq_some_iff` says what is left of a path behind a root, which is the path that was
joined to the root (`Path.below?_join`).  So the test files of a root are told by their paths
relative to it (`isTestFile_join`).
-/

namespace ElmOnSave

/-- A name before the last is that of directories for tests. -/
def InTests (names : List String) : Prop :=
  ∃ upper lower, names = upper ++ testsDirectory :: lower ∧ lower ≠ []

lemma inTests_iff_mem {names : List String} :
    InTests names ↔ testsDirectory ∈ names.dropLast := by
  constructor
  · rintro ⟨upper, lower, rfl, hlower⟩
    rw [List.dropLast_append_of_ne_nil (List.cons_ne_nil _ _), List.dropLast_cons_of_ne_nil hlower]
    exact List.mem_append_right upper (List.mem_cons_self ..)
  · intro hmem
    obtain ⟨upper, lower, hsplit⟩ := List.append_of_mem hmem
    have hne : names ≠ [] := by
      rintro rfl
      cases hmem
    refine ⟨upper, lower ++ [names.getLast hne], ?_, List.append_ne_nil_of_right_ne_nil _ (by simp)⟩
    rw [← List.cons_append, ← List.append_assoc, ← hsplit, List.dropLast_append_getLast]

instance (names : List String) : Decidable (InTests names) :=
  decidable_of_iff _ inTests_iff_mem.symm

lemma stripLeading?_eq_some_iff {α : Type} [DecidableEq α] {start xs rest : List α} :
    Text.stripLeading? start xs = some rest ↔ xs = start ++ rest := by
  fun_induction Text.stripLeading? start xs with
  | case1 xs => simp
  | case2 => simp
  | case3 x start xs ih => simp [ih]
  | case4 x start y xs hne => simp [Ne.symm hne]

namespace Path

/-- A path lies below another one: it starts at the same place and with the same names.  A path lies
below itself. -/
def LiesBelow (p root : Path) : Prop :=
  p.anchor = root.anchor ∧ root.names <+: p.names

instance (p root : Path) : Decidable (p.LiesBelow root) :=
  inferInstanceAs (Decidable (p.anchor = root.anchor ∧ root.names <+: p.names))

variable {p root : Path}

lemma below?_eq_some_iff {names : List String} :
    p.below? root = some names ↔ p.anchor = root.anchor ∧ p.names = root.names ++ names := by
  rw [below?]
  split
  · rename_i hanchor
    rw [stripLeading?_eq_some_iff]
    exact (and_iff_right hanchor).symm
  · rename_i hanchor
    exact iff_of_false nofun fun h => hanchor h.1

lemma below?_eq_none_iff : p.below? root = none ↔ ¬ p.LiesBelow root := by
  rw [Option.eq_none_iff_forall_ne_some]
  constructor
  · rintro h ⟨hanchor, names, hnames⟩
    exact h names (below?_eq_some_iff.2 ⟨hanchor, hnames.symm⟩)
  · intro h names hbelow
    obtain ⟨hanchor, hnames⟩ := below?_eq_some_iff.1 hbelow
    exact h ⟨hanchor, names, hnames.symm⟩

/-- Behind the root is what was joined to it. -/
lemma below?_join {rel : Path} (relative : rel.isAbsolute = false) :
    (root.join rel).below? root = some rel.names := by
  rw [below?_eq_some_iff, join, relative, if_neg Bool.false_ne_true]
  exact ⟨rfl, rfl⟩

end Path

section Classification

variable {cwd file root : Path}

/-- A file below the root is a test file if it is one by its path relative to the root. -/
lemma isTestFile_join {rel : Path} (relative : rel.isAbsolute = false)
    (h : file.absolute cwd = (root.absolute cwd).join rel) :
    isTestFile cwd file (some root) = true ↔ InTests rel.names := by
  simp only [isTestFile, h, Path.below?_join relative, Option.getD_some]
  rw [List.contains_iff_mem, inTests_iff_mem]

/-- A file that does not lie below the root is a test file if it is one by its whole path. -/
lemma isTestFile_of_not_liesBelow {root : Option Path}
    (h : ∀ r ∈ root, ¬ (file.absolute cwd).LiesBelow (r.absolute cwd)) :
    isTestFile cwd file root = true ↔ InTests (file.absolute cwd).names := by
  rw [inTests_iff_mem, ← List.contains_iff_mem]
  cases root with
  | none => rfl
  | some r =>
    simp only [isTestFile, Path.below?_eq_none_iff.2 (h r rfl), Option.getD_none]

end Classification

/-- A name that only starts like that of the root is another one. -/
example : ¬ (Path.ofString "/a/bc/tests/T.elm").LiesBelow (.ofString "/a/b") := by
  decide

end ElmOnSave
