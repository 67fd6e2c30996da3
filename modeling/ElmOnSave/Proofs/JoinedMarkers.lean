import ElmOnSave.Diagnostic
import ElmOnSave.Proofs.ColourMarkers

/-!
# Markers that stripping puts together

Deleting a marker joins the text on its two sides, which may make a new one: what is left of
`[[1m1m` is `[1m`.  This is the only way in which a marker gets into a stripped text.  Between the
markers of a text there is none, so a marker of the stripped text stands across a seam, a place from
which a marker was deleted (`Marker.exists_seam`).

The message of a diagnostic shows the details stripped once (`Marker.marker_in_message_iff`).
-/

namespace ElmOnSave

/-- The text that is kept falls into two parts, between which a token was deleted. -/
inductive Cutting.Seam {τ : Type} : Cutting τ → List Char → List Char → Prop where
  | first (gap : List Char) (t : τ) (rest : Cutting τ) : Seam (.token gap t rest) gap rest.kept
  | later {rest : Cutting τ} {front back : List Char} (gap : List Char) (t : τ)
      (seam : Seam rest front back) : Seam (.token gap t rest) (gap ++ front) back

lemma Cutting.Seam.kept_eq {τ : Type} {c : Cutting τ} {front back : List Char}
    (h : c.Seam front back) : c.kept = front ++ back := by
  induction h with
  | first gap t rest => rfl
  | later gap t seam ih => rw [kept_token, ih, List.append_assoc]

namespace Marker

/-- Two texts meet inside a marker, with some text before it and some behind it. -/
def MeetsAcross (m : Marker) (before after front back : List Char) : Prop :=
  ∃ x y, x ≠ [] ∧ y ≠ [] ∧ m.written = x ++ y ∧ front = before ++ x ∧ back = y ++ after

/-- A marker of the stripped text stands across a seam. -/
lemma exists_seam {c : Cutting Marker} (hc : kind.IsLeftmost c) {m : Marker}
    {before after : List Char} (h : c.kept = before ++ (m.written ++ after)) :
    ∃ front back, c.Seam front back ∧ m.MeetsAcross before after front back := by
  induction c generalizing before with
  | last gap =>
    -- There is no marker in the only piece.
    refine absurd ⟨m, before, after, ?_⟩ (not_occurs_of_skips hc)
    rw [List.append_assoc]
    exact h.symm
  | token gap t rest ih =>
    obtain ⟨hskips, -, hrest⟩ := hc
    have hgap : ∀ more, gap ≠ before ++ (m.written ++ more) := by
      intro more hmore
      refine not_occurs_of_skips hskips ⟨m, before, more, ?_⟩
      rw [List.append_assoc]
      exact hmore.symm
    have hlater : ∀ before', before = gap ++ before' →
        rest.kept = before' ++ (m.written ++ after) →
        ∃ front back, (Cutting.token gap t rest).Seam front back ∧
          m.MeetsAcross before after front back := by
      rintro before' rfl hkept
      obtain ⟨front, back, hseam, x, y, hx, hy, hm, rfl, rfl⟩ := ih hrest hkept
      refine ⟨_, _, .later gap t hseam, x, y, hx, hy, hm, ?_, rfl⟩
      rw [List.append_assoc]
    -- The marker begins behind the first piece, or stands in it, or across the first seam.
    rw [Cutting.kept_token] at h
    obtain ⟨x, rfl, hx⟩ | ⟨before', hbefore, hkept⟩ := List.append_eq_append_iff.1 h.symm
    · by_cases hnil : x = []
      · subst hnil
        rw [List.append_nil] at hlater ⊢
        exact hlater [] (List.append_nil before).symm hx.symm
      obtain ⟨more, hmore, -⟩ | ⟨y, hm, hy⟩ := List.append_eq_append_iff.1 hx
      · exact absurd (congrArg (before ++ ·) hmore) (hgap more)
      by_cases hynil : y = []
      · subst hynil
        rw [List.append_nil] at hm
        refine absurd ?_ (hgap [])
        rw [List.append_nil, hm]
      · exact ⟨_, _, .first (before ++ x) t rest, x, y, hnil, hynil, hm, rfl, hy⟩
    · exact hlater before' hbefore hkept

/-- **Markers in a message.**  The message of a diagnostic shows the overview, a dash and the stripped
details, which are what stands between the markers of the details.  A marker stands in them exactly
where it stands across a seam, put together from what was kept on the two sides of a marker that was
deleted.  There is none exactly if stripping once more leaves them as they are. -/
theorem marker_in_message_iff (d : Diagnostic) (source : Option String) :
    ∃ c : Cutting Marker, (∀ c', kind.IsCuttingOf c' d.details.toList ↔ c' = c) ∧
      strip d.details.toList = c.kept ∧
      (d.toEditor source).message =
        d.overview ++ " - " ++ String.ofList (strip d.details.toList) ∧
      (∀ (m : Marker) (before after : List Char),
        strip d.details.toList = before ++ (m.written ++ after) ↔
          ∃ front back, c.Seam front back ∧ m.MeetsAcross before after front back) ∧
      (¬ Occurs (strip d.details.toList) ↔
        strip (strip d.details.toList) = strip d.details.toList) := by
  obtain ⟨c, hc⟩ := kind.exists_isCuttingOf d.details.toList
  refine ⟨c, hc.iff_eq, strip_eq_kept hc, rfl, ?_, strip_eq_self_iff.symm⟩
  intro m before after
  rw [strip_eq_kept hc]
  refine ⟨exists_seam hc.leftmost, ?_⟩
  rintro ⟨front, back, hseam, x, y, -, -, hm, rfl, rfl⟩
  rw [hseam.kept_eq, hm, List.append_assoc, List.append_assoc]

/-- Details in which a marker stands inside the start of another. -/
def nestedDetails : String := "[[1m1m"

/-- There may be a marker in the stripped details, and stripping them once more may then delete
it. -/
theorem not_forall_stripped_free :
    (¬ ∀ d : Diagnostic, ¬ Occurs (strip d.details.toList)) ∧
      ¬ ∀ text, strip (strip text) = strip text := by
  have hagain : strip (strip nestedDetails.toList) ≠ strip nestedDetails.toList := by
    decide +kernel
  refine ⟨?_, fun h => hagain (h _)⟩
  intro h
  exact hagain (strip_eq_self_iff.2 (h (.ofProject "" nestedDetails "")))

end Marker

end ElmOnSave
