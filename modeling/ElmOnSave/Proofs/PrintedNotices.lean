import Mathlib
import ElmOnSave.Notice
import ElmOnSave.Proofs.FailingSteps

/-!
# How a printed notice begins

A notice is laid out before it is printed: characters that move the cursor are left out, its lines
are taken apart, tabs are replaced by blanks, and each line is cut into runs of one style.  None of
this touches a beginning without any such characters.  The lemmas follow it through the layout: it
is the beginning of the first line (`exists_lines_cons`), also without tabs (`isPrefix_expandTabs`),
and the runs of a line put together are the line (`flatMap_segments`).  `NoticeTaste.isPrefix_printed`
is the result.
-/

namespace ElmOnSave

namespace Terminal

/-- A character that the layout of a text leaves where it is. -/
def IsStill (c : Char) : Prop :=
  c ≠ '\n' ∧ c ≠ '\t' ∧ isCursorControl c = false

namespace StyledText

variable {start : List Char} (still : ∀ c ∈ start, IsStill c)

/-! ## Lines -/

section Beginning

include still

lemma le_of_mem_lineFeedPlaces {cs : List Char} (hstart : start <+: cs) {n : Nat} {p : Nat × Nat}
    (hp : p ∈ lineFeedPlaces cs n) : n + start.length ≤ p.1 := by
  induction cs generalizing n start with
  | nil => cases hp
  | cons c cs ih =>
    have hlater : p ∈ lineFeedPlaces cs (n + 1) → n < p.1 := fun hp =>
      ih (List.forall_mem_nil _) List.nil_prefix hp
    rw [lineFeedPlaces] at hp
    cases start with
    | nil =>
      split at hp
      · rcases List.mem_cons.1 hp with rfl | hp
        · exact Nat.le_refl n
        · exact Nat.le_of_lt (hlater hp)
      · exact Nat.le_of_lt (hlater hp)
    | cons d start =>
      obtain ⟨rfl, htail⟩ := List.cons_prefix_cons.1 hstart
      rw [List.forall_mem_cons] at still
      rw [if_neg still.1.1] at hp
      have hle := ih still.2 htail hp
      rw [List.length_cons]
      omega

lemma le_of_mem_tabPlaces {cs : List Char} (hstart : start <+: cs) {n p : Nat}
    (hp : p ∈ tabPlaces cs n) : n + start.length ≤ p := by
  induction cs generalizing n start with
  | nil => cases hp
  | cons c cs ih =>
    have hlater : p ∈ tabPlaces cs (n + 1) → n < p := fun hp =>
      ih (List.forall_mem_nil _) List.nil_prefix hp
    rw [tabPlaces] at hp
    cases start with
    | nil =>
      split at hp
      · rcases List.mem_cons.1 hp with rfl | hp
        · exact Nat.le_succ n
        · exact Nat.le_of_lt (hlater hp)
      · exact Nat.le_of_lt (hlater hp)
    | cons d start =>
      obtain ⟨rfl, htail⟩ := List.cons_prefix_cons.1 hstart
      rw [List.forall_mem_cons] at still
      rw [if_neg still.1.2.1] at hp
      have hle := ih still.2 htail hp
      rw [List.length_cons]
      omega

variable {t : StyledText} (hstart : start <+: t.chars)

include hstart

omit still in
lemma isPrefix_slice {stop : Nat} (h : start.length ≤ stop) : start <+: (t.slice 0 stop).chars := by
  rw [slice, List.drop_zero, Nat.sub_zero]
  exact List.prefix_take_iff.2 ⟨hstart, h⟩

/-- The first line begins as the text does. -/
lemma exists_lines_cons : ∃ line rest, t.lines = line :: rest ∧ start <+: line.chars := by
  rw [lines]
  cases hfeeds : lineFeedPlaces t.chars 0 with
  | nil => exact ⟨t, [], rfl, hstart⟩
  | cons p ps =>
    have hp : 0 + start.length ≤ p.1 :=
      le_of_mem_lineFeedPlaces still hstart (hfeeds ▸ List.mem_cons_self ..)
    exact ⟨_, _, rfl, isPrefix_slice hstart (by omega)⟩

/-- A tab at the end of a piece gives way to blanks. -/
lemma isPrefix_untabbed (place : Nat) : start <+: (untabbed t place).1.chars := by
  rw [untabbed]
  split
  · rename_i hlast
    obtain ⟨rest, hrest⟩ := hstart
    have hne : rest ≠ [] := by
      rintro rfl
      rw [← hrest, List.append_nil] at hlast
      exact (still '\t' (List.mem_of_getLast? hlast)).2.1 rfl
    rw [← hrest, List.dropLast_append_of_ne_nil hne]
    simp only [List.append_assoc]
    exact List.prefix_append _ _
  · exact hstart

end Beginning

/-- A piece without its tab behind those before it. -/
def joinUntabbed (acc : StyledText × Nat) (piece : StyledText) : StyledText × Nat :=
  ({ acc.1 with
      chars := acc.1.chars ++ (untabbed piece acc.2).1.chars
      spans := acc.1.spans ++ shifted acc.1.chars.length (untabbed piece acc.2).1.allSpans },
    (untabbed piece acc.2).2)

lemma isPrefix_foldl_joinUntabbed (pieces : List StyledText) (acc : StyledText × Nat) :
    acc.1.chars <+: (pieces.foldl joinUntabbed acc).1.chars := by
  induction pieces generalizing acc with
  | nil => exact List.prefix_refl _
  | cons piece pieces ih =>
    exact (List.prefix_append _ _).trans (ih (joinUntabbed acc piece))

lemma expandTabs_of_tab {t : StyledText} (h : t.chars.contains '\t' = true) :
    t.expandTabs =
      ((if t.chars.getLast? = some '\t' then (t.divide (tabPlaces t.chars 0)).dropLast
        else t.divide (tabPlaces t.chars 0)).foldl joinUntabbed
          ({ base := t.base, chars := [] }, 0)).1 := by
  rw [expandTabs, if_pos h]
  rfl

lemma tabPlaces_ne_nil {cs : List Char} (h : '\t' ∈ cs) (n : Nat) : tabPlaces cs n ≠ [] := by
  induction cs generalizing n with
  | nil => cases h
  | cons c cs ih =>
    rw [tabPlaces]
    split
    · exact List.cons_ne_nil _ _
    · rename_i hc
      exact ih ((List.mem_cons.1 h).resolve_left (Ne.symm hc)) (n + 1)

/-- A line begins in the same way when its tabs are gone. -/
lemma isPrefix_expandTabs (still : ∀ c ∈ start, IsStill c) {t : StyledText}
    (hstart : start <+: t.chars) : start <+: t.expandTabs.chars := by
  by_cases htab : t.chars.contains '\t' = true
  · rw [expandTabs_of_tab htab]
    obtain ⟨p, ps, hplaces⟩ := List.exists_cons_of_ne_nil
      (tabPlaces_ne_nil (List.contains_iff_mem.1 htab) 0)
    have hp : 0 + start.length ≤ p :=
      le_of_mem_tabPlaces still hstart (hplaces ▸ List.mem_cons_self ..)
    obtain ⟨next, rest, hpieces⟩ : ∃ next rest,
        t.divide (tabPlaces t.chars 0) = t.slice 0 p :: next :: rest := by
      rw [hplaces]
      cases ps <;> exact ⟨_, _, rfl⟩
    have hslice : start <+: (t.slice 0 p).chars := isPrefix_slice hstart (by omega)
    have hfirst : ∀ pieces : List StyledText, start <+:
        ((t.slice 0 p :: pieces).foldl joinUntabbed ({ base := t.base, chars := [] }, 0)).1.chars :=
      fun pieces => (isPrefix_untabbed still hslice 0).trans
        (isPrefix_foldl_joinUntabbed pieces
          (joinUntabbed ({ base := t.base, chars := [] }, 0) (t.slice 0 p)))
    rw [hpieces]
    split
    · exact hfirst _
    · exact hfirst _
  · rw [expandTabs, if_neg htab]
    exact hstart

/-! ## Runs -/

/-- The runs between places in increasing order are what stands behind the first place. -/
lemma flatMap_runs (style : Nat → Style) (cs : List Char) (a : Nat) (places : List Nat)
    (sorted : (a :: places).Pairwise (· ≤ ·)) (within : ∀ p ∈ a :: places, p ≤ cs.length) :
    (((a :: places).zip (places ++ [cs.length])).filterMap fun p =>
      if p.1 < p.2 then some (⟨style p.1, (cs.drop p.1).take (p.2 - p.1)⟩ : Segment)
      else none).flatMap Segment.chars = cs.drop a := by
  induction places generalizing a with
  | nil =>
    have ha : a ≤ cs.length := within a (List.mem_cons_self ..)
    rw [List.nil_append, List.zip_cons_cons, List.zip_nil_left]
    by_cases hlt : a < cs.length
    · simp [hlt]
    · simp [hlt, List.drop_eq_nil_of_le (Nat.not_lt.1 hlt)]
  | cons b places ih =>
    obtain ⟨hle, htail⟩ := List.pairwise_cons.1 sorted
    have hab : a ≤ b := hle b (List.mem_cons_self ..)
    have hrest := ih b htail fun p hp => within p (List.mem_cons_of_mem a hp)
    rw [List.cons_append, List.zip_cons_cons]
    by_cases hlt : a < b
    · rw [List.filterMap_cons_some (by rw [if_pos hlt]), List.flatMap_cons, hrest]
      have hdrop : cs.drop b = (cs.drop a).drop (b - a) := by
        rw [List.drop_drop]
        congr 1
        omega
      rw [hdrop]
      exact List.take_append_drop _ _
    · obtain rfl : a = b := Nat.le_antisymm hab (Nat.not_lt.1 hlt)
      rw [List.filterMap_cons_none (by rw [if_neg hlt]), hrest]

/-- The runs of a text are the text. -/
lemma flatMap_segments {t : StyledText} {segments : List Segment}
    (h : t.segments = .ok segments) : segments.flatMap Segment.chars = t.chars := by
  obtain ⟨spans, -, h⟩ := bind_eq_ok_iff.1 h
  cases h
  generalize hends : (spans.flatMap fun s => [s.1.start, s.1.stop]).filter
    (· < t.chars.length) = ends
  have hperm : ((0 :: ends).mergeSort (· ≤ ·)).Perm (0 :: ends) := List.mergeSort_perm _ _
  have hsorted : ((0 :: ends).mergeSort (· ≤ ·)).Pairwise (· ≤ ·) :=
    List.pairwise_mergeSort' (· ≤ ·) _
  have hwithin : ∀ p ∈ (0 :: ends).mergeSort (· ≤ ·), p ≤ t.chars.length := by
    intro p hp
    rcases List.mem_cons.1 (hperm.mem_iff.1 hp) with rfl | hp
    · exact Nat.zero_le _
    · rw [← hends] at hp
      exact Nat.le_of_lt (by simpa using (List.mem_filter.1 hp).2)
  have hzero : 0 ∈ (0 :: ends).mergeSort (· ≤ ·) := hperm.mem_iff.2 (List.mem_cons_self ..)
  generalize (0 :: ends).mergeSort (· ≤ ·) = places at hsorted hwithin hzero
  cases places with
  | nil => cases hzero
  | cons a places =>
    obtain rfl : a = 0 := by
      rcases List.mem_cons.1 hzero with heq | hmem
      · exact heq.symm
      · exact Nat.le_zero.1 ((List.pairwise_cons.1 hsorted).1 0 hmem)
    exact flatMap_runs (styleAt spans) t.chars 0 places hsorted hwithin

end StyledText

/-- What is printed without codes begins as the text does. -/
lemma Console.isPrefix_print {c : Console} (uncoded : c.coded = false) {start : List Char}
    (still : ∀ d ∈ start, IsStill d) {t : StyledText} (hstart : start <+: t.chars)
    {cs : List Char} (h : c.print t = .ok cs) : start <+: cs := by
  obtain ⟨line, rest, hlines, hline⟩ := StyledText.exists_lines_cons still hstart
  have hexpanded := StyledText.isPrefix_expandTabs still hline
  rw [Console.print, StyledText.freeLines, hlines, List.map_cons, mapM_cons_eq] at h
  obtain ⟨_, hlaid, hprint⟩ := bind_eq_ok_iff.1 h
  obtain ⟨segments, hsegments, hothers⟩ := bind_eq_ok_iff.1 hlaid
  obtain ⟨others, -, rfl⟩ := map_eq_ok_iff.1 hothers
  cases hprint
  have hchars := StyledText.flatMap_segments hsegments
  have hprinted : printed c.coded segments = line.expandTabs.chars := by
    rw [uncoded, ← hchars]
    rfl
  rw [List.flatMap_cons, Console.line, hprinted, List.append_assoc]
  exact hexpanded.trans (List.prefix_append _ _)

lemma isPrefix_printable {start cs : List Char} (still : ∀ c ∈ start, IsStill c)
    (h : start <+: cs) : start <+: printable cs := by
  obtain ⟨rest, rfl⟩ := h
  have hkept : printable start = start :=
    List.filter_eq_self.2 fun c hc => by simp [(still c hc).2.2]
  rw [printable, List.filter_append, ← printable, hkept]
  exact List.prefix_append _ _

end Terminal

open Terminal in
/-- **A printed notice begins with its sign and its message**, as far as they leave the cursor where
it is, unless nothing is printed at all. -/
theorem NoticeTaste.isPrefix_printed (taste : NoticeTaste) (kind : NoticeKind) {message : String}
    {start : List Char} (still : ∀ c ∈ start, IsStill c)
    (h : start <+: (if taste.emoji then kind.sign else []) ++ message.toList) :
    taste.printed false kind message = "" ∨
      start <+: (taste.printed false kind message).toList := by
  unfold NoticeTaste.printed
  dsimp only
  split
  · rename_i line hline
    have huncoded : (taste.console false).coded = false := by simp [NoticeTaste.console]
    have hprefix := Console.isPrefix_print huncoded still (isPrefix_printable still h) hline
    rw [String.toList_ofList]
    exact .inr hprefix
  · exact .inl rfl

end ElmOnSave
