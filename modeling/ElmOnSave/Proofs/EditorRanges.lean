import ElmOnSave.Diagnostic
import Mathlib.Data.Prod.Lex
import Mathlib.Order.MinMax

/-!
# Ranges of an editor

Places are compared by their lines and then by their columns, of a region as of the range an editor
shows for it.  Counting from zero moves both coordinates of a place down by one, but not below zero,
and each on its own.  Two different lines may therefore become the same one, the first, and then the
columns alone decide, which were of no account before.  A region to which this happens is turned
around (`Region.Turns`); every other keeps its order (`Region.isOrdered_toEditor_iff`).
-/

namespace ElmOnSave

/-- The place in the order of places: by lines, then by columns. -/
def Position.place (p : Position) : ℤ ×ₗ ℤ :=
  toLex (p.line, p.column)

/-- The start of the region is not behind its end. -/
def Region.IsOrdered (r : Region) : Prop :=
  r.start.place ≤ r.stop.place

/-- All coordinates of the region are at least one. -/
def Region.IsCounted (r : Region) : Prop :=
  (1 ≤ r.start.line ∧ 1 ≤ r.start.column) ∧ 1 ≤ r.stop.line ∧ 1 ≤ r.stop.column

/-- The region goes from a line to a later one, and an editor shows both as the first line; there its
start is shown behind its end. -/
structure Region.Turns (r : Region) : Prop where
  laterLine : r.start.line < r.stop.line
  firstLine : r.stop.line ≤ 1
  behindEnd : r.stop.column < r.start.column
  behindFirst : 1 < r.start.column

namespace EditorRange

/-- The start of the range is not behind its end. -/
def IsOrdered (r : EditorRange) : Prop :=
  toLex (r.start.line, r.start.character) ≤ toLex (r.stop.line, r.stop.character)

/-- No coordinate of the range is negative. -/
def IsNonnegative (r : EditorRange) : Prop :=
  (0 ≤ r.start.line ∧ 0 ≤ r.start.character) ∧ 0 ≤ r.stop.line ∧ 0 ≤ r.stop.character

end EditorRange

/-- The place counted from zero as it would be without a bound. -/
def Position.pred (p : Position) : EditorPosition :=
  ⟨p.line - 1, p.column - 1⟩

/-! ## Places counted from zero -/

lemma Position.toEditor_of_counted {p : Position} (hline : 1 ≤ p.line) (hcolumn : 1 ≤ p.column) :
    p.toEditor = p.pred := by
  have hline' : 0 ≤ p.line - 1 := by omega
  have hcolumn' : 0 ≤ p.column - 1 := by omega
  rw [Position.toEditor, Position.pred, max_eq_left hline', max_eq_left hcolumn']

namespace Region

variable {r : Region}

lemma isOrdered_iff :
    r.IsOrdered ↔ r.start.line < r.stop.line ∨
      r.start.line = r.stop.line ∧ r.start.column ≤ r.stop.column := by
  rw [IsOrdered, Position.place, Position.place, Prod.Lex.toLex_le_toLex]

lemma isOrdered_toEditor :
    r.toEditor.IsOrdered ↔ max (r.start.line - 1) 0 < max (r.stop.line - 1) 0 ∨
      max (r.start.line - 1) 0 = max (r.stop.line - 1) 0 ∧
        max (r.start.column - 1) 0 ≤ max (r.stop.column - 1) 0 := by
  rw [EditorRange.IsOrdered, Prod.Lex.toLex_le_toLex]
  rfl

lemma isNonnegative_toEditor (r : Region) : r.toEditor.IsNonnegative :=
  ⟨⟨le_max_right _ _, le_max_right _ _⟩, le_max_right _ _, le_max_right _ _⟩

lemma toEditor_of_isCounted (h : r.IsCounted) : r.toEditor = ⟨r.start.pred, r.stop.pred⟩ := by
  obtain ⟨⟨hstartLine, hstartColumn⟩, hstopLine, hstopColumn⟩ := h
  rw [toEditor, Position.toEditor_of_counted hstartLine hstartColumn,
    Position.toEditor_of_counted hstopLine hstopColumn]

/-- An ordered region keeps its order unless it is turned around. -/
lemma isOrdered_toEditor_iff (h : r.IsOrdered) : r.toEditor.IsOrdered ↔ ¬ r.Turns := by
  rw [isOrdered_toEditor]
  obtain hlines | ⟨hline, hcolumns⟩ := isOrdered_iff.1 h
  · by_cases hfirst : r.stop.line ≤ 1
    · -- Both are shown as the first line, so the columns decide.
      have hstart : max (r.start.line - 1) 0 = 0 := max_eq_right (by omega)
      have hstop : max (r.stop.line - 1) 0 = 0 := max_eq_right (by omega)
      rw [hstart, hstop]
      constructor
      · rintro hcolumns ⟨-, -, hbehindEnd, hbehindFirst⟩
        omega
      · intro hturns
        have hcolumns : ¬ (r.stop.column < r.start.column ∧ 1 < r.start.column) :=
          fun ⟨hend, hfront⟩ => hturns ⟨hlines, hfirst, hend, hfront⟩
        omega
    · have hstop : max (r.stop.line - 1) 0 = r.stop.line - 1 := max_eq_left (by omega)
      have hlater : max (r.start.line - 1) 0 < max (r.stop.line - 1) 0 := by omega
      exact iff_of_true (.inl hlater) fun hturns => hfirst hturns.firstLine
  · have hcolumns' : max (r.start.column - 1) 0 ≤ max (r.stop.column - 1) 0 :=
      max_le_max (by omega) le_rfl
    refine iff_of_true (.inr ⟨by rw [hline], hcolumns'⟩) ?_
    intro hturns
    exact hturns.laterLine.ne hline

end Region

/-- **Ranges shown for ordered regions.**  No coordinate is negative, and the start is not behind the
end unless the region is turned around.  If every coordinate of the region is at least one, each
becomes less by exactly one. -/
theorem range_of_ordered_region (d : Diagnostic) (source : Option String)
    (h : d.region.IsOrdered) :
    (d.toEditor source).range.IsNonnegative ∧
      ((d.toEditor source).range.IsOrdered ↔ ¬ d.region.Turns) ∧
      (d.region.IsCounted →
        (d.toEditor source).range = ⟨d.region.start.pred, d.region.stop.pred⟩) :=
  ⟨d.region.isNonnegative_toEditor, Region.isOrdered_toEditor_iff h, Region.toEditor_of_isCounted⟩

/-- A diagnostic of a region, about which nothing else is known. -/
def Diagnostic.ofRegion (r : Region) : Diagnostic :=
  { Diagnostic.ofProject "" "" "" with region := r }

/-- A region from the line before the first to the second line, from a column behind that of its end.
-/
def strayRegion : Region := ⟨⟨0, 7⟩, ⟨2, -3⟩⟩

/-- It is shown from the first line to the second one, with its end moved to the first column. -/
theorem strayRegion_shown_in_order :
    strayRegion.IsOrdered ∧ ((Diagnostic.ofRegion strayRegion).toEditor none).range.IsOrdered := by
  have hordered : strayRegion.IsOrdered := Region.isOrdered_iff.2 (.inl (by decide))
  refine ⟨hordered, (range_of_ordered_region (.ofRegion strayRegion) none hordered).2.1.2 ?_⟩
  intro hturns
  exact absurd hturns.firstLine (by decide)

/-- A region from the line before the first to the first one, from a column behind that of its end.
-/
def turnedRegion : Region := ⟨⟨0, 5⟩, ⟨1, 2⟩⟩

/-- The range that is shown may be turned around. -/
theorem not_forall_range_isOrdered :
    ¬ ∀ (d : Diagnostic) (source : Option String), d.region.IsOrdered →
      (d.toEditor source).range.IsOrdered := by
  intro h
  have hordered : turnedRegion.IsOrdered := Region.isOrdered_iff.2 (.inl (by decide))
  have hrange := h (.ofRegion turnedRegion) none hordered
  exact (Region.isOrdered_toEditor_iff hordered).1 hrange ⟨by decide, by decide, by decide, by decide⟩

end ElmOnSave
