import Mathlib
import ElmOnSave.Text.Line

/-!
# The ends of the lines of a file

In a file CR LF and a lone CR end a line like LF, and are read as LF.  Where no CR stands before an
LF, as on one line, each CR becomes LF and nothing else changes (`universalNewlines_eq_map`); in
particular a text without CR stays as it is (`universalNewlines_of_not_mem`).
-/

namespace ElmOnSave.Text

/-- CR becomes LF. -/
def asLineFeed (c : Char) : Char :=
  if c = '\r' then '\n' else c

/-- What does not tell CR from LF is the same of a character and of what it becomes. -/
lemma apply_asLineFeed {β : Type} (p : Char → β) (h : p '\n' = p '\r') (c : Char) :
    p (asLineFeed c) = p c := by
  unfold asLineFeed
  split
  · rename_i hc
    rw [hc, h]
  · rfl

/-- Only a character itself becomes one that is neither CR nor LF. -/
lemma asLineFeed_eq_iff {c d : Char} (h : isLineEnd d = false) : asLineFeed c = d ↔ c = d := by
  unfold asLineFeed
  split
  · rename_i hc
    subst hc
    constructor
    · rintro rfl
      cases h
    · rintro rfl
      cases h
  · rfl

lemma asLineFeed_of_not_isLineEnd {c : Char} (h : isLineEnd c = false) : asLineFeed c = c :=
  (asLineFeed_eq_iff h).2 rfl

/-- Where no CR stands before an LF, each CR becomes LF. -/
lemma universalNewlines_eq_map {cs : List Char} (noPair : ¬['\r', '\n'] <:+: cs) :
    universalNewlines cs = cs.map asLineFeed := by
  have htail : ∀ {c : Char} {cs : List Char}, ¬['\r', '\n'] <:+: c :: cs → ¬['\r', '\n'] <:+: cs :=
    fun h inside => h (inside.trans (List.suffix_cons ..).isInfix)
  have hgo : ∀ acc, universalNewlines.go cs acc = (cs.map asLineFeed).reverse ++ acc := by
    intro acc
    fun_induction universalNewlines.go cs acc with
    | case1 => rfl
    | case2 cs => exact absurd ⟨[], cs, rfl⟩ noPair
    | case3 acc cs _ ih =>
      rw [ih (htail noPair)]
      simp [asLineFeed]
    | case4 c cs acc _ hc ih =>
      rw [ih (htail noPair)]
      simp [asLineFeed, show c ≠ '\r' from hc]
  rw [universalNewlines, hgo, List.append_nil, List.reverse_reverse]

/-- A text without CR stays as it is. -/
lemma universalNewlines_of_not_mem {cs : List Char} (h : '\r' ∉ cs) :
    universalNewlines cs = cs := by
  have hsame : cs.map asLineFeed = cs := by
    refine (List.map_congr_left fun c hc => ?_).trans (List.map_id cs)
    have hne : c ≠ '\r' := by
      rintro rfl
      exact h hc
    exact if_neg hne
  rw [universalNewlines_eq_map fun inside => h (inside.subset (by simp)), hsame]

end ElmOnSave.Text
