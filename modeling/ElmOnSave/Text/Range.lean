/-!
# Ranges of code points

A character property is stored as a list of closed ranges of code points in increasing order.
`inRanges` asks whether a code point lies in one of them.
-/

namespace ElmOnSave.Text

/-- Whether `n` lies in one of the closed ranges. -/
def inRanges (ranges : List (Nat × Nat)) (n : Nat) : Bool :=
  ranges.any fun r => r.1 ≤ n && n ≤ r.2

theorem inRanges_iff (ranges : List (Nat × Nat)) (n : Nat) :
    inRanges ranges n = true ↔ ∃ r ∈ ranges, r.1 ≤ n ∧ n ≤ r.2 := by
  simp [inRanges]

end ElmOnSave.Text
