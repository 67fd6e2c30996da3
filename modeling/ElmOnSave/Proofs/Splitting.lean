import Mathlib
import ElmOnSave.Text.Line

/-!
# Pieces between separators

`Text.splitAll` cuts a list at the items that satisfy a predicate.  It is the library's `splitOnP`
(`splitAll_eq_splitOnP`), worked out with accumulators.  What the readers of paths and of streams
need to know about it is how it meets `++`: a separator cuts (`splitAll_append_cons`), and nothing
else does (`splitAll_of_forall_not`).

A list is also split behind its longest run of items of a class (`takeWhile_run`, `dropWhile_run`),
and cut at one of its items: two such cuts of one list are compared by `append_cons_cases`.
-/

namespace ElmOnSave.Text

variable {α : Type} {p : α → Bool}

lemma splitAll_go (xs cur : List α) (acc : List (List α)) :
    splitAll.go p xs cur acc = acc.reverse ++ xs.splitOnPPrepend p cur := by
  induction xs generalizing cur acc with
  | nil => simp [splitAll.go]
  | cons x xs ih =>
    rw [splitAll.go, List.splitOnPPrepend_cons_eq_if]
    split <;> simp [ih]

theorem splitAll_eq_splitOnP (xs : List α) : splitAll p xs = xs.splitOnP p := by
  rw [splitAll, splitAll_go, List.splitOnP_eq_splitOnPPrepend, List.reverse_nil, List.nil_append]

@[simp] lemma splitAll_nil : splitAll p [] = [[]] := rfl

/-- A list without separators is one piece. -/
lemma splitAll_of_forall_not {xs : List α} (h : ∀ x ∈ xs, p x = false) : splitAll p xs = [xs] := by
  rw [splitAll_eq_splitOnP, List.splitOnP_eq_singleton h]

/-- A separator cuts. -/
lemma splitAll_append_cons (xs ys : List α) {x : α} (hx : p x = true) :
    splitAll p (xs ++ x :: ys) = splitAll p xs ++ splitAll p ys := by
  simp only [splitAll_eq_splitOnP, List.splitOnP_append_cons xs ys hx]

lemma splitAll_concat_of_pos (xs : List α) {x : α} (hx : p x = true) :
    splitAll p (xs ++ [x]) = splitAll p xs ++ [[]] :=
  splitAll_append_cons xs [] hx

/-- What is no separator goes to the end of the last piece. -/
lemma splitAll_concat_of_neg {xs last : List α} {init : List (List α)} {x : α} (hx : p x = false)
    (h : splitAll p xs = init ++ [last]) : splitAll p (xs ++ [x]) = init ++ [last ++ [x]] := by
  simp only [splitAll_eq_splitOnP] at h ⊢
  induction xs generalizing init last with
  | nil =>
    obtain ⟨rfl, rfl⟩ : init = [] ∧ last = [] := by
      simpa [List.singleton_eq_append_iff] using h
    exact List.splitOnP_eq_singleton (by simp [hx])
  | cons y ys ih =>
    rw [List.cons_append, List.splitOnP_cons_eq_if_modifyHead]
    rw [List.splitOnP_cons_eq_if_modifyHead] at h
    split at h
    · rename_i hy
      rw [if_pos hy]
      cases init with
      | nil => exact absurd (List.cons.inj h).2 (List.splitOnP_ne_nil p ys)
      | cons piece init =>
        obtain ⟨rfl, hys⟩ := List.cons.inj h
        rw [ih hys, List.cons_append]
    · rename_i hy
      rw [if_neg hy]
      obtain ⟨piece, pieces, hys⟩ := List.exists_cons_of_ne_nil (List.splitOnP_ne_nil p ys)
      rw [hys, List.modifyHead_cons] at h
      cases init with
      | nil =>
        obtain ⟨rfl, rfl⟩ := List.cons.inj h
        have hlast : ys.splitOnP p = [] ++ [piece] := hys
        rw [ih hlast, List.nil_append, List.modifyHead_cons, List.nil_append,
          List.cons_append]
      | cons piece' init =>
        obtain ⟨rfl, rfl⟩ := List.cons.inj h
        have hlast : ys.splitOnP p = (piece :: init) ++ [last] := hys
        rw [ih hlast, List.cons_append, List.modifyHead_cons,
          List.cons_append]

/-- No separator is left in a piece. -/
lemma not_of_mem_splitAll {xs piece : List α} (h : piece ∈ splitAll p xs) :
    ∀ x ∈ piece, p x = false := by
  rw [splitAll_eq_splitOnP] at h
  induction xs generalizing piece with
  | nil =>
    obtain rfl : piece = [] := by simpa using h
    simp
  | cons y ys ih =>
    rw [List.splitOnP_cons_eq_if_modifyHead] at h
    split at h
    · rcases List.mem_cons.1 h with rfl | h
      · simp
      · exact ih h
    · rename_i hy
      obtain ⟨first, rest, hsplit⟩ := List.exists_cons_of_ne_nil (List.splitOnP_ne_nil p ys)
      rw [hsplit] at h ih
      rcases List.mem_cons.1 h with rfl | h
      · simpa [hy] using ih (List.mem_cons_self ..)
      · exact ih (List.mem_cons_of_mem first h)

end ElmOnSave.Text

namespace ElmOnSave

/-! ## Longest runs -/

section Runs

variable {α : Type} {p : α → Bool} {xs ys : List α}

/-- A run of items of a class, up to one that is none. -/
lemma takeWhile_run (hxs : ∀ x ∈ xs, p x = true) (hys : ∀ y ∈ ys.head?, p y = false) :
    (xs ++ ys).takeWhile p = xs := by
  rw [List.takeWhile_append_of_pos hxs]
  cases ys with
  | nil => exact List.append_nil xs
  | cons y ys => rw [List.takeWhile_cons_of_neg (by simp [hys y rfl]), List.append_nil]

lemma dropWhile_run (hxs : ∀ x ∈ xs, p x = true) (hys : ∀ y ∈ ys.head?, p y = false) :
    (xs ++ ys).dropWhile p = ys := by
  rw [List.dropWhile_append_of_pos hxs]
  cases ys with
  | nil => rfl
  | cons y ys => exact List.dropWhile_cons_of_neg (by simp [hys y rfl])

/-- What follows the longest run starts with an item of another class. -/
lemma eq_false_of_mem_head?_dropWhile {y : α} (h : y ∈ (xs.dropWhile p).head?) : p y = false := by
  have hhead := List.head?_dropWhile_not p xs
  rw [h] at hhead
  exact hhead

lemma drop_length_takeWhile : xs.drop (xs.takeWhile p).length = xs.dropWhile p := by
  calc xs.drop (xs.takeWhile p).length
      = (xs.takeWhile p ++ xs.dropWhile p).drop (xs.takeWhile p).length := by
        rw [List.takeWhile_append_dropWhile]
    _ = xs.dropWhile p := List.drop_left

end Runs

/-! ## Cuts at an item -/

/-- Two ways to cut one list at an item: at the same place, or at one place and then another. -/
lemma append_cons_cases {α : Type} {l₁ l₂ r₁ r₂ : List α} {a b : α}
    (h : l₁ ++ a :: r₁ = l₂ ++ b :: r₂) :
    (l₁ = l₂ ∧ a = b ∧ r₁ = r₂) ∨ (∃ m, l₂ = l₁ ++ a :: m ∧ r₁ = m ++ b :: r₂) ∨
      ∃ m, l₁ = l₂ ++ b :: m ∧ r₂ = m ++ a :: r₁ := by
  rcases List.append_eq_append_iff.1 h with ⟨m, rfl, hm⟩ | ⟨m, rfl, hm⟩
  · cases m with
    | nil =>
      obtain ⟨rfl, rfl⟩ := List.cons.inj hm
      exact .inl ⟨(List.append_nil _).symm, rfl, rfl⟩
    | cons x m =>
      obtain ⟨rfl, rfl⟩ := List.cons.inj hm
      exact .inr (.inl ⟨m, rfl, rfl⟩)
  · cases m with
    | nil =>
      obtain ⟨rfl, rfl⟩ := List.cons.inj hm
      exact .inl ⟨List.append_nil _, rfl, rfl⟩
    | cons x m =>
      obtain ⟨rfl, rfl⟩ := List.cons.inj hm
      exact .inr (.inr ⟨m, rfl, rfl⟩)

/-- A cut of a list with one more item is a cut at that item or a cut of the list. -/
lemma concat_eq_append_cons {α : Type} {h l r : List α} {o a : α}
    (split : h ++ [o] = l ++ a :: r) :
    (h = l ∧ o = a ∧ r = []) ∨ ∃ r', h = l ++ a :: r' ∧ r = r' ++ [o] := by
  rcases append_cons_cases split with ⟨hl, ha, hr⟩ | ⟨m, -, hm⟩ | ⟨m, hl, hr⟩
  · exact .inl ⟨hl, ha, hr.symm⟩
  · simp at hm
  · exact .inr ⟨m, hl, hr⟩

end ElmOnSave
