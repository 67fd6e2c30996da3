import Mathlib
import ElmOnSave.Terminal.Console
import ElmOnSave.Text.Printable

/-!
# Texts in cells

The text of a cell passes through many hands before it is printed: it is cut into lines and words,
blanks at its end may be dropped, it is filled up with blanks, cut into runs of one style and
measured again.  For a text of printable characters (`IsPrintable`) that fits into its cell all this
comes to nothing but the blanks around it, and `cellLines_eq` says so.

The steps rest on `width`.  It is not additive, because the emoji selector may widen the character
before it and the joiner swallows the one behind it.  Printable characters do not include the
joiner, and without it a text takes at least the cells of its parts (`width_append_le`) and blanks
behind it take exactly their own (`width_append_spaces`).  A line that fits therefore does not break
at any of its words (`breakPlaces_paddedWords`).  Blanks at the end that are dropped because the
text has more characters than the cell has places come back when the cell is filled up
(`StyledText.atLeft_dropOverhang`).
-/

namespace ElmOnSave.Terminal

/-- A text of printable characters, which stands on one line. -/
def IsPrintable (cs : List Char) : Prop :=
  ∀ c ∈ cs, Text.isPrintable c = true

/-! ## Printable characters -/

lemma isPrintable_of_ascii {cs : List Char} (h : ∀ c ∈ cs, 32 ≤ c.toNat ∧ c.toNat < 127) :
    IsPrintable cs := by
  intro c hc
  obtain ⟨hlow, hhigh⟩ := h c hc
  have hascii : c.toNat < 128 := by omega
  simp [Text.isPrintable, hascii, hlow, hhigh]

/-- No printable character is a control or, beyond ASCII, a separator or a joiner. -/
lemma gaps_of_isPrintable {c : Char} (h : Text.isPrintable c = true) :
    32 ≤ c.toNat ∧ ¬ (127 ≤ c.toNat ∧ c.toNat ≤ 160) ∧ c.toNat ≠ 5760 ∧
      ¬ (8191 ≤ c.toNat ∧ c.toNat ≤ 8207) ∧ ¬ (8232 ≤ c.toNat ∧ c.toNat ≤ 8239) ∧
      ¬ (8287 ≤ c.toNat ∧ c.toNat ≤ 8303) ∧ ¬ (12284 ≤ c.toNat ∧ c.toNat ≤ 12288) := by
  rw [Text.isPrintable] at h
  split at h
  · simp only [Bool.and_eq_true, decide_eq_true_eq] at h
    omega
  · have hgap : ∀ r ∈ Text.unprintableRanges, ¬ (r.1 ≤ c.toNat ∧ c.toNat ≤ r.2) := by
      intro r hr hc
      rw [(Text.inRanges_iff _ _).2 ⟨r, hr, hc⟩] at h
      cases h
    have h₁ := hgap (128, 160) (by decide +kernel)
    have h₂ := hgap (5760, 5760) (by decide +kernel)
    have h₃ := hgap (8191, 8207) (by decide +kernel)
    have h₄ := hgap (8232, 8239) (by decide +kernel)
    have h₅ := hgap (8287, 8303) (by decide +kernel)
    have h₆ := hgap (12284, 12288) (by decide +kernel)
    dsimp only at h₁ h₂ h₃ h₄ h₅ h₆
    omega

lemma isCursorControl_of_isPrintable {c : Char} (h : Text.isPrintable c = true) :
    isCursorControl c = false := by
  have hc := gaps_of_isPrintable h
  simp only [isCursorControl, Bool.or_eq_false_iff, beq_eq_false_iff_ne]
  omega

lemma endsMeasuredLine_of_isPrintable {c : Char} (h : Text.isPrintable c = true) :
    endsMeasuredLine c = false := by
  have hc := gaps_of_isPrintable h
  simp only [endsMeasuredLine, Bool.or_eq_false_iff, Bool.and_eq_false_iff,
    decide_eq_false_iff_not, beq_eq_false_iff_ne]
  omega

/-- The only printable blank is the space. -/
lemma eq_space_of_isBlank {c : Char} (h : Text.isPrintable c = true)
    (hblank : Text.isBlank c = true) : c = ' ' := by
  have hc := gaps_of_isPrintable h
  simp only [Text.isBlank, Bool.or_eq_true, Bool.and_eq_true, decide_eq_true_eq,
    beq_iff_eq] at hblank
  have hspace : c.toNat = 32 := by omega
  rw [← Char.ofNat_toNat c, hspace]

namespace IsPrintable

variable {cs : List Char} (h : IsPrintable cs)

include h

lemma not_mem {c : Char} (hc : c.toNat < 32 ∨ c.toNat = 0x200D) : c ∉ cs := by
  intro hmem
  have hgaps := gaps_of_isPrintable (h c hmem)
  omega

lemma joiner_not_mem : joiner ∉ cs := h.not_mem (.inr rfl)

lemma lineFeed_not_mem : '\n' ∉ cs := h.not_mem (.inl (by decide))

lemma tab_not_mem : '\t' ∉ cs := h.not_mem (.inl (by decide))

lemma printable_eq : printable cs = cs := by
  refine List.filter_eq_self.2 fun c hc => ?_
  rw [isCursorControl_of_isPrintable (h c hc)]
  rfl

end IsPrintable

/-! ## Widths -/

section Width

lemma width_go_cons {c : Char} (hc : c ≠ joiner) (cs : List Char) (last : Option Char) (n : Nat) :
    width.go (c :: cs) last n =
      if c = emojiSelector then
        match last with
        | some l => width.go cs none (if Text.inRanges widenedRanges l.toNat then n + 1 else n)
        | none => width.go cs none n
      else if charWidth c = 0 then width.go cs last n
      else width.go cs (some c) (n + charWidth c) := by
  rw [width.go.eq_def]
  cases last <;> exact if_neg hc

lemma width_go_add {cs : List Char} (h : joiner ∉ cs) (last : Option Char) (n m : Nat) :
    width.go cs last (n + m) = width.go cs last n + m := by
  induction cs generalizing last n with
  | nil => rfl
  | cons c cs ih =>
    obtain ⟨hc, htail⟩ := not_or.1 (fun h' => h (List.mem_cons.2 h'))
    have ih := ih htail
    simp only [width_go_cons (Ne.symm hc)]
    split
    · split
      · split
        · rw [Nat.add_right_comm, ih]
        · rw [ih]
      · rw [ih]
    · split
      · rw [ih]
      · rw [Nat.add_right_comm, ih]

/-- A text of ASCII characters takes one cell for each. -/
lemma width_of_ascii {cs : List Char} (h : ∀ c ∈ cs, 32 ≤ c.toNat ∧ c.toNat < 127) :
    width cs = cs.length := by
  have hgo : ∀ (cs : List Char), (∀ c ∈ cs, 32 ≤ c.toNat ∧ c.toNat < 127) →
      ∀ last n, width.go cs last n = n + cs.length := by
    intro cs
    induction cs with
    | nil => exact fun _ last n => rfl
    | cons c cs ih =>
      intro h last n
      obtain ⟨hlow, hhigh⟩ := h c (List.mem_cons_self ..)
      have hjoiner : c ≠ joiner := by
        rintro rfl
        have hcode : joiner.toNat = 0x200D := rfl
        omega
      have hselector : c ≠ emojiSelector := by
        rintro rfl
        have hcode : emojiSelector.toNat = 0xFE0F := rfl
        omega
      have hone : charWidth c = 1 := charWidth_of_ascii c (by omega)
      rw [width_go_cons hjoiner, if_neg hselector, hone, if_neg Nat.one_ne_zero,
        ih fun d hd => h d (List.mem_cons_of_mem _ hd), List.length_cons]
      omega
  rw [width, hgo cs h, Nat.zero_add]

/-- What stands behind a text takes at least the cells it takes by itself. -/
lemma le_width_go {cs : List Char} (h : joiner ∉ cs) (last : Option Char) (n : Nat) :
    width.go cs none n ≤ width.go cs last n := by
  induction cs generalizing last n with
  | nil => exact Nat.le_refl _
  | cons c cs ih =>
    obtain ⟨hc, htail⟩ := not_or.1 (fun h' => h (List.mem_cons.2 h'))
    simp only [width_go_cons (Ne.symm hc)]
    split
    · split
      · split
        · rw [width_go_add htail]
          exact Nat.le_succ _
        · exact Nat.le_refl _
      · exact Nat.le_refl _
    · split
      · exact ih htail last n
      · exact Nat.le_refl _

/-- A text is measured from left to right. -/
lemma width_go_append {a : List Char} (h : joiner ∉ a) (last : Option Char) (n : Nat) :
    ∃ last', ∀ b, width.go (a ++ b) last n = width.go b last' (width.go a last n) := by
  induction a generalizing last n with
  | nil => exact ⟨last, fun b => rfl⟩
  | cons c a ih =>
    obtain ⟨hc, htail⟩ := not_or.1 (fun h' => h (List.mem_cons.2 h'))
    simp only [List.cons_append, width_go_cons (Ne.symm hc)]
    split
    · split
      · exact ih htail none _
      · exact ih htail none n
    · split
      · exact ih htail last n
      · exact ih htail (some c) _

lemma width_append_le {a b : List Char} (ha : joiner ∉ a) (hb : joiner ∉ b) :
    width a + width b ≤ width (a ++ b) := by
  obtain ⟨last, hlast⟩ := width_go_append ha none 0
  rw [width, width, width, hlast]
  have hle := le_width_go hb last (width.go a none 0)
  have hadd := width_go_add hb none 0 (width.go a none 0)
  rw [Nat.zero_add] at hadd
  omega

lemma width_append_spaces {a : List Char} (ha : joiner ∉ a) (n : Nat) :
    width (a ++ spaces n) = width a + n := by
  obtain ⟨last, hlast⟩ := width_go_append ha none 0
  have hspaces : ∀ (n m : Nat) (last : Option Char), width.go (spaces n) last m = m + n := by
    intro n
    induction n with
    | zero => exact fun m last => rfl
    | succ n ih =>
      intro m last
      have hstep : width.go (spaces (n + 1)) last m = width.go (spaces n) (some ' ') (m + 1) := by
        rw [spaces, List.replicate_succ, width_go_cons (by decide)]
        rfl
      rw [hstep, ih, Nat.add_right_comm, Nat.add_assoc]
  rw [width, width, hlast, hspaces]

lemma width_spaces (n : Nat) : width (spaces n) = n := by
  simpa [width, width.go] using width_append_spaces (a := []) (by simp) n

end Width

/-! ## Breaking lines -/

lemma paddedWords_go_isPrefix (cs w : List Char) (ended : Bool) (acc : List (List Char)) :
    (paddedWords.go cs w ended acc).flatten <+: acc.reverse.flatten ++ (w.reverse ++ cs) := by
  induction cs generalizing w ended acc with
  | nil =>
    rw [paddedWords.go]
    split
    · exact List.prefix_append _ _
    · simp
  | cons c cs ih =>
    rw [paddedWords.go]
    split_ifs
    · simpa using ih (c :: w) true acc
    · simpa using ih [c] false (w.reverse :: acc)
    · simpa using ih (c :: w) false acc

/-- The words with their blanks are the line, but for a line of blanks. -/
lemma paddedWords_isPrefix (cs : List Char) : (paddedWords cs).flatten <+: cs := by
  have h := paddedWords_go_isPrefix (cs.dropWhile Text.isBlank)
    (cs.takeWhile Text.isBlank).reverse false []
  rw [List.reverse_reverse, List.takeWhile_append_dropWhile] at h
  exact h

lemma sum_width_le {ws : List (List Char)} (h : joiner ∉ ws.flatten) :
    (ws.map width).sum ≤ width ws.flatten := by
  induction ws with
  | nil => exact Nat.le_refl _
  | cons w ws ih =>
    rw [List.flatten_cons, List.mem_append, not_or] at h
    rw [List.map_cons, List.sum_cons, List.flatten_cons]
    exact (Nat.add_le_add_left (ih h.2) _).trans (width_append_le h.1 h.2)

lemma width_le_of_isPrefix {a b : List Char} (h : a <+: b) (hb : joiner ∉ b) :
    width a ≤ width b := by
  obtain ⟨rest, rfl⟩ := h
  rw [List.mem_append, not_or] at hb
  exact (Nat.le_add_right _ _).trans (width_append_le hb.1 hb.2)

lemma trimEndOf_isPrefix (p : Char → Bool) (cs : List Char) : Text.trimEndOf p cs <+: cs := by
  rw [Text.trimEndOf, ← List.reverse_suffix, List.reverse_reverse]
  exact List.dropWhile_suffix _

/-- A line that fits does not break. -/
lemma breakPlaces_eq_nil {n taken : Nat} {ws : List (List Char)} (hws : ∀ w ∈ ws, joiner ∉ w)
    (h : taken + (ws.map width).sum ≤ n) (start : Nat) : breakPlaces n ws start taken = [] := by
  induction ws generalizing start taken with
  | nil => rfl
  | cons w ws ih =>
    rw [List.map_cons, List.sum_cons] at h
    have htrim : width (Text.trimEndOf Text.isBlank w) ≤ width w :=
      width_le_of_isPrefix (trimEndOf_isPrefix _ _) (hws w (List.mem_cons_self ..))
    rw [breakPlaces, if_pos (by omega)]
    exact ih (fun u hu => hws u (List.mem_cons_of_mem _ hu)) (by omega) _

lemma breakPlaces_paddedWords {cs : List Char} {n : Nat} (hcs : joiner ∉ cs)
    (h : width cs ≤ n) : breakPlaces n (paddedWords cs) 0 0 = [] := by
  have hfront := paddedWords_isPrefix cs
  have hflat : joiner ∉ (paddedWords cs).flatten := fun hmem => hcs (hfront.subset hmem)
  refine breakPlaces_eq_nil (fun w hw hmem => hflat (List.mem_flatten.2 ⟨w, hw, hmem⟩)) ?_ 0
  have hsum := sum_width_le hflat
  have hwidth := width_le_of_isPrefix hfront hcs
  omega

/-! ## Cells -/

namespace StyledText

lemma lineFeedPlaces_eq_nil {cs : List Char} (h : '\n' ∉ cs) (n : Nat) :
    lineFeedPlaces cs n = [] := by
  induction cs generalizing n with
  | nil => rfl
  | cons c cs ih =>
    rw [List.mem_cons, not_or] at h
    rw [lineFeedPlaces, if_neg (Ne.symm h.1), ih h.2]

/-- A text on one line is its own line. -/
lemma lines_eq {t : StyledText} (h : IsPrintable t.chars) : t.lines = [t] := by
  rw [lines, lineFeedPlaces_eq_nil h.lineFeed_not_mem]

lemma expandTabs_eq {t : StyledText} (h : IsPrintable t.chars) : t.expandTabs = t := by
  rw [expandTabs, if_neg (by simpa using h.tab_not_mem)]

lemma freeLines_eq {t : StyledText} (h : IsPrintable t.chars) : t.freeLines = [t] := by
  rw [freeLines, lines_eq h, List.map_singleton, expandTabs_eq h]

/-- A text that fits is one line of its cell, at most without some blanks at its end. -/
lemma wrapped_eq {t : StyledText} (h : IsPrintable t.chars) {n : Nat} (fits : width t.chars ≤ n) :
    t.wrapped n = [t.dropOverhang n] := by
  rw [wrapped, lines_eq h]
  simp only [List.flatMap_singleton, expandTabs_eq h,
    breakPlaces_paddedWords h.joiner_not_mem fits]
  rfl

lemma atLeft_eq {t : StyledText} {n : Nat} (fits : width t.chars ≤ n) :
    t.atLeft n = { t with chars := t.chars ++ spaces (n - width t.chars) } := by
  rw [atLeft]
  split
  · rfl
  · have hfull : n - width t.chars = 0 := by omega
    have htruncated : t.truncated n = t := if_neg (by omega)
    rw [htruncated, htruncated, hfull]
    simp [spaces]

/-- The blanks at the end of a printable text are spaces. -/
lemma take_append_spaces {cs : List Char} (h : IsPrintable cs) {k : Nat}
    (hk : k ≤ (cs.reverse.takeWhile Text.isBlank).length) :
    cs.take (cs.length - k) ++ spaces k = cs := by
  have hlength : k ≤ cs.length := by
    have htake := (List.takeWhile_prefix Text.isBlank (l := cs.reverse)).length_le
    rw [List.length_reverse] at htake
    omega
  have hblank : ∀ c ∈ cs.drop (cs.length - k), c = ' ' := by
    intro c hc
    have hmem : c ∈ cs.reverse.take k := by
      rw [List.take_reverse]
      exact List.mem_reverse.2 hc
    have htake : cs.reverse.take k <+: cs.reverse.takeWhile Text.isBlank :=
      List.prefix_of_prefix_length_le (List.take_prefix _ _) (List.takeWhile_prefix _)
        (by simp; omega)
    exact eq_space_of_isBlank (h c (List.mem_of_mem_drop hc))
      (List.mem_takeWhile_imp (htake.subset hmem))
  have hdrop : cs.drop (cs.length - k) = spaces k :=
    List.eq_replicate_iff.2 ⟨by simp; omega, hblank⟩
  rw [← hdrop, List.take_append_drop]

/-- Blanks that were dropped at the end are there again when the cell is filled up. -/
lemma atLeft_dropOverhang {cs : List Char} (h : IsPrintable cs) {n : Nat} (fits : width cs ≤ n) :
    (dropOverhang { chars := cs } n).atLeft n =
      { chars := cs ++ spaces (n - width cs) } := by
  rw [dropOverhang]
  dsimp only
  split
  · generalize hk : min (cs.reverse.takeWhile Text.isBlank).length (cs.length - n) = k
    have hcs := take_append_spaces h (k := k) (by omega)
    have hkeep : keepFirst { chars := cs } (cs.length - k) =
        { chars := cs.take (cs.length - k) } := rfl
    rw [hkeep]
    generalize cs.take (cs.length - k) = kept at hcs
    subst hcs
    have hkept : joiner ∉ kept := fun hmem => h.joiner_not_mem (List.mem_append_left _ hmem)
    rw [width_append_spaces hkept] at fits ⊢
    rw [atLeft_eq (by dsimp only; omega)]
    have hblanks : n - width kept = k + (n - (width kept + k)) := by omega
    rw [List.append_assoc, spaces, spaces, spaces, List.replicate_append_replicate, ← hblanks]
  · exact atLeft_eq fits

section Spans

variable {t : StyledText} (h : t.spans = [])

include h

lemma keepFirst_spans (n : Nat) : (t.keepFirst n).spans = [] := by
  simp [keepFirst, h]

lemma withChars_spans (cs : List Char) : (t.withChars cs).spans = [] := by
  rw [withChars]
  split
  · exact keepFirst_spans h _
  · exact h

lemma truncated_spans (n : Nat) : (t.truncated n).spans = [] := by
  rw [truncated]
  split
  · exact withChars_spans h _
  · exact h

lemma dropOverhang_spans (n : Nat) : (t.dropOverhang n).spans = [] := by
  rw [dropOverhang]
  split
  · exact keepFirst_spans h _
  · exact h

lemma atLeft_spans (n : Nat) : (t.atLeft n).spans = [] := by
  rw [atLeft]
  split
  · exact h
  · exact truncated_spans (truncated_spans h n) n

lemma atRight_spans (n : Nat) : (t.atRight n).spans = [] := by
  have htrim : (t.trimEnd.truncated n).spans = [] := truncated_spans (withChars_spans h _) n
  refine truncated_spans ?_ n
  simp [shifted, htrim]

end Spans

/-- The runs of a text with at most a style of its own. -/
lemma exists_segments {t : StyledText} (h : t.spans = []) :
    ∃ segments, t.segments = .ok segments := by
  obtain ⟨base, cs, spans⟩ := t
  subst h
  cases base <;> exact ⟨_, rfl⟩

lemma segments_eq {cs : List Char} (h : cs ≠ []) :
    segments { chars := cs } = .ok [⟨Style.plain, cs⟩] := by
  have hlength : 0 < cs.length := List.length_pos_iff.2 h
  have hsegments : segments { chars := cs } = .ok
      ((([0].mergeSort (· ≤ ·)).zip (([0].mergeSort (· ≤ ·)).drop 1 ++ [cs.length])).filterMap
        fun p => if p.1 < p.2 then some ⟨styleAt [] p.1, (cs.drop p.1).take (p.2 - p.1)⟩
          else none) := rfl
  rw [hsegments, List.mergeSort_singleton]
  simp [hlength, styleAt]

end StyledText

lemma fittedSegments_eq {style : Style} {n : Nat} {segments : List Segment}
    (h : segmentsWidth segments = n) : fittedSegments style n segments = segments := by
  rw [fittedSegments]
  simp [h]

/-- A cell that has room for its text is one line. -/
lemma exists_cellLines {c : Column} {n : Nat} {t : StyledText} (h : IsPrintable t.chars)
    (hspans : t.spans = []) (fits : width t.chars + cellPadding ≤ n) (room : cellPadding < n)
    (style : Style) : ∃ line, cellLines style c n t = .ok [line] := by
  have hlines : ∃ t' : StyledText, t'.spans = [] ∧
      (if c.wraps then t.wrapped (n - cellPadding) else t.freeLines) = [t'] := by
    split
    · exact ⟨_, StyledText.dropOverhang_spans hspans _, StyledText.wrapped_eq h (by omega)⟩
    · exact ⟨t, hspans, StyledText.freeLines_eq h⟩
  obtain ⟨t', hspans', hlines⟩ := hlines
  have hplaced : (if c.right then t'.atRight (n - cellPadding)
      else t'.atLeft (n - cellPadding)).spans = [] := by
    split
    · exact StyledText.atRight_spans hspans' _
    · exact StyledText.atLeft_spans hspans' _
  obtain ⟨segments, hsegments⟩ := StyledText.exists_segments hplaced
  refine ⟨cellLine style n segments, ?_⟩
  rw [cellLines, if_neg (by omega)]
  dsimp only
  rw [hlines, List.mapM_cons, hsegments]
  rfl

lemma cellLine_plain {n : Nat} {text : List Char} (h : width text = n - cellPadding)
    (room : cellPadding < n) :
    cellLine Style.plain n [⟨Style.plain, text⟩] =
      [blankSegment Style.plain 1, ⟨Style.plain, text⟩, blankSegment Style.plain 1] := by
  have hblank : width (spaces 1) = 1 := width_spaces 1
  have htext : segmentsWidth [⟨Style.plain, text⟩] = n - cellPadding := by
    simpa [segmentsWidth] using h
  have hline : segmentsWidth [blankSegment Style.plain 1, ⟨Style.plain, text⟩,
      blankSegment Style.plain 1] = n := by
    simp only [segmentsWidth, blankSegment, hblank, h]
    simp only [cellPadding] at room ⊢
    omega
  rw [cellLine, fittedSegments_eq htext]
  -- A plain style on top of a plain one changes nothing.
  show fittedSegments Style.plain n (fittedSegments Style.plain n
    [blankSegment Style.plain 1, ⟨Style.plain, text⟩, blankSegment Style.plain 1]) = _
  rw [fittedSegments_eq hline, fittedSegments_eq hline]

/-- **A cell at the left shows its text between blanks.** -/
lemma cellLines_eq {c : Column} {n : Nat} {cs : List Char} (h : IsPrintable cs)
    (left : c.right = false) (fits : width cs + cellPadding ≤ n) (room : cellPadding < n) :
    cellLines Style.plain c n { chars := cs } = .ok [[blankSegment Style.plain 1,
      ⟨Style.plain, cs ++ spaces (n - cellPadding - width cs)⟩, blankSegment Style.plain 1]] := by
  have hplaced : ∃ t' : StyledText, t'.atLeft (n - cellPadding) =
        { chars := cs ++ spaces (n - cellPadding - width cs) } ∧
      (if c.wraps then StyledText.wrapped { chars := cs } (n - cellPadding)
        else StyledText.freeLines { chars := cs }) = [t'] := by
    split
    · exact ⟨_, StyledText.atLeft_dropOverhang h (by omega),
        StyledText.wrapped_eq (t := { chars := cs }) h (by dsimp only; omega)⟩
    · exact ⟨_, StyledText.atLeft_eq (t := { chars := cs }) (by dsimp only; omega),
        StyledText.freeLines_eq (t := { chars := cs }) h⟩
  obtain ⟨t', hplaced, hlines⟩ := hplaced
  have hfilled : width (cs ++ spaces (n - cellPadding - width cs)) = n - cellPadding := by
    rw [width_append_spaces h.joiner_not_mem]
    omega
  have hne : cs ++ spaces (n - cellPadding - width cs) ≠ [] := by
    intro hnil
    rw [hnil] at hfilled
    have hzero : width [] = 0 := rfl
    omega
  rw [cellLines, if_neg (by omega)]
  dsimp only
  rw [hlines, left, List.mapM_cons, if_neg (by decide), hplaced, StyledText.segments_eq hne]
  exact congrArg (fun line => Except.ok [line]) (cellLine_plain hfilled room)

end ElmOnSave.Terminal
