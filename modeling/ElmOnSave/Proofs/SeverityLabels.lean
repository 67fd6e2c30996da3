import Mathlib
import ElmOnSave.Diagnostic
import ElmOnSave.Text.Lower

/-!
# Labels of severities

A diagnostic is labelled by a text, and a label counts whatever its case.  The table of severities
is looked up with the case of ASCII letters folded, which is less than lower case in full.  The two
come to the same (`lower_eq_iff`), because no letter beyond ASCII has a small letter among those of
the labels: the one such letter that turns into an ASCII letter alone is the sign for kelvin, and
there is no `k` in a label.

`severity_eq_error_iff` is what this is for: what an editor shows as an error is exactly a
diagnostic that is no warning.
-/

namespace ElmOnSave

namespace Text

/-- The small letters of ASCII other than the one that the sign for kelvin has. -/
def IsPlainLetter (c : Char) : Prop :=
  97 ≤ c.toNat ∧ c.toNat ≤ 122 ∧ c.toNat ≠ 107

instance (c : Char) : Decidable (IsPlainLetter c) :=
  inferInstanceAs (Decidable (_ ∧ _))

lemma toNat_ofNat_of_plain {n : Nat} (h : IsPlainLetter (Char.ofNat n)) :
    (Char.ofNat n).toNat = n := by
  by_cases hvalid : n.isValidChar
  · rw [Char.ofNat, dif_pos hvalid]
    rfl
  · rw [Char.ofNat, dif_neg hvalid] at h
    exact absurd h.1 (by decide)

/-- The small letters beyond those of ASCII that the table leads to. -/
lemma lower_bound_of_mem_capitalRuns : ∀ r ∈ capitalRuns,
    122 < (r.1 : Int) + r.2.2.2 ∨ r = (8490, 8490, 1, -8383) := by
  decide +kernel

lemma not_isPlainLetter_lowerChar {c : Char} (h : 128 ≤ c.toNat) :
    ¬ IsPlainLetter (lowerChar c) := by
  intro hplain
  unfold lowerChar at hplain
  simp only [Nat.not_lt.2 h, if_false] at hplain
  split at hplain
  · rename_i r hfound
    have hrange := List.find?_some hfound
    simp only [Bool.and_eq_true, decide_eq_true_eq] at hrange
    have hletter := toNat_ofNat_of_plain hplain
    obtain ⟨-, hle, hne⟩ := hplain
    rcases lower_bound_of_mem_capitalRuns r (List.mem_of_find?_eq_some hfound) with hr | rfl
    · omega
    · simp only at hrange hletter hne
      omega
  · obtain ⟨-, hle, -⟩ := hplain
    omega

/-- A letter beyond ASCII has no lower case among the letters of a label. -/
lemma exists_mem_lowerBetween {c : Char} (h : 128 ≤ c.toNat) (before after : List Char) :
    ∃ d ∈ lowerBetween before c after, ¬ IsPlainLetter d := by
  unfold lowerBetween
  split
  · exact ⟨Char.ofNat 0x307, by simp, by decide⟩
  · split
    · refine ⟨_, List.mem_singleton.2 rfl, ?_⟩
      split <;> decide
    · exact ⟨_, List.mem_singleton.2 rfl, not_isPlainLetter_lowerChar h⟩

lemma lowerBetween_of_ascii {c : Char} (h : c.toNat < 128) (before after : List Char) :
    lowerBetween before c after = [c.toLower] := by
  have hi : c ≠ dottedCapitalI := by
    rintro rfl
    revert h
    decide
  have hsigma : c ≠ capitalSigma := by
    rintro rfl
    revert h
    decide
  rw [lowerBetween, if_neg hi, if_neg hsigma, lowerChar_of_ascii c h]

lemma toLower_of_beyond_ascii {c : Char} (h : 128 ≤ c.toNat) : c.toLower = c := by
  have hbeyond : ¬ (c.val ≥ 'A'.val ∧ c.val ≤ 'Z'.val) := by
    rintro ⟨-, hle⟩
    have hle : c.toNat ≤ 90 := hle
    omega
  rw [Char.toLower, dif_neg hbeyond]

/-- For a text of plain letters, lower case in full and that of ASCII come to the same. -/
theorem lower_eq_iff {word : List Char} (plain : ∀ c ∈ word, IsPlainLetter c) (cs : List Char) :
    lower cs = word ↔ cs.map Char.toLower = word := by
  have hgo : ∀ before, lower.go before cs = word ↔ cs.map Char.toLower = word := by
    induction cs generalizing word with
    | nil => exact fun _ => Iff.rfl
    | cons c cs ih =>
      intro before
      rw [lower.go, List.map_cons]
      by_cases hc : c.toNat < 128
      · rw [lowerBetween_of_ascii hc, List.singleton_append]
        cases word with
        | nil => simp
        | cons w word =>
          rw [List.cons.injEq, List.cons.injEq,
            ih (fun d hd => plain d (List.mem_cons_of_mem w hd)) (c :: before)]
      · have hc := Nat.not_lt.1 hc
        refine iff_of_false (fun h => ?_) fun h => ?_
        · obtain ⟨d, hd, hnot⟩ := exists_mem_lowerBetween hc before cs
          exact hnot (plain d (h ▸ List.mem_append_left _ hd))
        · rw [toLower_of_beyond_ascii hc] at h
          obtain ⟨-, hle, -⟩ := plain c (h ▸ List.mem_cons_self ..)
          omega
  exact hgo []

end Text

/-- A diagnostic whose type is the one of a warning once blanks around it and its case are taken
away. -/
def Diagnostic.IsWarning (d : Diagnostic) : Prop :=
  Text.lower (Text.trim d.type.toList) = "warning".toList

instance (d : Diagnostic) : Decidable d.IsWarning :=
  inferInstanceAs (Decidable (_ = _))

/-- **An editor is shown an error for every diagnostic that is no warning.** -/
theorem Diagnostic.severity_eq_error_iff (d : Diagnostic) (source : Option String) :
    (d.toEditor source).severity = .error ↔ ¬ d.IsWarning := by
  have hplain : ∀ c ∈ "warning".toList, Text.IsPlainLetter c := by simp [Text.IsPlainLetter]
  rw [IsWarning, Text.lower_eq_iff hplain, toEditor, EditorSeverity.ofLabel, Severity.ofLabel?]
  generalize (Text.trim d.type.toList).map Char.toLower = label
  have hwarning : String.ofList label = "warning" ↔ label = "warning".toList := by
    rw [← String.toList_inj, String.toList_ofList]
  rw [← hwarning]
  by_cases herror : String.ofList label = "error"
  · simp [herror, EditorSeverity.ofSeverity]
  · by_cases hwarn : String.ofList label = "warning" <;>
      simp [herror, hwarn, EditorSeverity.ofSeverity]

end ElmOnSave
