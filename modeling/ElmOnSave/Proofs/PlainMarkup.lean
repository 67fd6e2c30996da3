import ElmOnSave.Proofs.CellLayout

/-!
# Markup that stands for itself

A text is read as markup by looking for tags between square brackets, for brackets with a backslash
before them and, if the console replaces them, for emoji codes between colons.  `Verbatim` says of a
text that it holds none of these, and `ofMarkup_of_verbatim` that it is then read as itself.  The
property passes to every end of the text (`Verbatim.suffix`), which is what the readers work
through; `Verbatim.tagHere?_eq_none`, `Verbatim.unescapedBrackets_eq` and `Verbatim.withEmoji_eq`
deal with one kind of interpretation each.
-/

namespace ElmOnSave.Terminal

/-- A text in which markup finds nothing to interpret. -/
structure Verbatim (emoji : Bool) (cs : List Char) : Prop where
  /-- No stretch between brackets starts as a tag does. -/
  noTag : ∀ c body, startsTag c = true → '[' ∉ body → ']' ∉ body →
    ¬ ('[' :: c :: (body ++ [']'])) <:+: cs
  /-- No backslash stands before an opening bracket. -/
  noEscape : ¬ ['\\', '['] <:+: cs
  /-- No stretch between colons names an emoji, if such names are replaced. -/
  noEmoji : emoji = true → ∀ name, ':' ∉ name → (∀ c ∈ name, Text.isBlank c = false) →
    (':' :: (name ++ [':'])) <:+: cs → emojiOf? name = none

lemma Verbatim.suffix {emoji : Bool} {cs cs' : List Char} (h : Verbatim emoji cs)
    (hs : cs' <:+ cs) : Verbatim emoji cs' where
  noTag c body hc hopen hclose hin := h.noTag c body hc hopen hclose (hin.trans hs.isInfix)
  noEscape hin := h.noEscape (hin.trans hs.isInfix)
  noEmoji he name hcolon hblank hin := h.noEmoji he name hcolon hblank (hin.trans hs.isInfix)

/-- Brackets and colons are all that markup looks for. -/
lemma verbatim_of_not_mem {emoji : Bool} {cs : List Char} (bracket : '[' ∉ cs) (colon : ':' ∉ cs) :
    Verbatim emoji cs where
  noTag _ _ _ _ _ hin := bracket (hin.subset (List.mem_cons_self ..))
  noEscape hin := bracket (hin.subset (List.mem_cons_of_mem _ (List.mem_cons_self ..)))
  noEmoji _ _ _ _ hin := absurd (hin.subset (List.mem_cons_self ..)) colon

/-! ## Tags -/

lemma upToBracket?_eq_some {cs body : List Char} (h : upToBracket? cs = some body) :
    (body ++ [']']) <+: cs ∧ '[' ∉ body ∧ ']' ∉ body := by
  induction cs generalizing body with
  | nil => cases h
  | cons c cs ih =>
    rw [upToBracket?] at h
    split_ifs at h with hclose hopen
    · subst hclose
      cases h
      simp
    · obtain ⟨rest, hrest, rfl⟩ := Option.map_eq_some_iff.1 h
      obtain ⟨hfront, ho, hc⟩ := ih hrest
      refine ⟨by simpa using hfront, ?_, ?_⟩
      · simpa [Ne.symm hopen] using ho
      · simpa [Ne.symm hclose] using hc

lemma Verbatim.tagBody?_eq_none {emoji : Bool} {cs : List Char} (h : Verbatim emoji cs) :
    tagBody? cs = none := by
  by_contra hbody
  unfold tagBody? at hbody
  split at hbody
  · rename_i c cs
    split at hbody
    · rename_i hc
      obtain ⟨b, hb⟩ := Option.ne_none_iff_exists'.1 hbody
      obtain ⟨rest, hrest, rfl⟩ := Option.map_eq_some_iff.1 hb
      obtain ⟨⟨more, hmore⟩, hopen, hclose⟩ := upToBracket?_eq_some hrest
      refine h.noTag c rest hc hopen hclose ⟨[], more, ?_⟩
      simpa using hmore
    · exact hbody rfl
  · exact hbody rfl

lemma Verbatim.tagHere?_eq_none {emoji : Bool} {cs : List Char} (h : Verbatim emoji cs) :
    tagHere? cs = none := by
  rw [tagHere?, (h.suffix (List.drop_suffix _ _)).tagBody?_eq_none]
  rfl

lemma markupPieces_go {emoji : Bool} {cs : List Char} (h : Verbatim emoji cs) (n : Nat)
    (text : List Char) :
    markupPieces.go cs n 0 text [] = markupPieces.flush (cs.reverse ++ text) [] := by
  induction cs generalizing n text with
  | nil => rfl
  | cons c cs ih =>
    rw [markupPieces.go, h.tagHere?_eq_none]
    rw [ih (h.suffix (List.suffix_cons c cs))]
    simp

/-- A text without tags is one piece. -/
lemma Verbatim.markupPieces_eq {emoji : Bool} {cs : List Char} (h : Verbatim emoji cs)
    (hcs : cs ≠ []) : markupPieces cs = [.plain cs] := by
  rw [markupPieces, markupPieces_go h, markupPieces.flush]
  simp [hcs]

lemma Verbatim.unescapedBrackets_eq {emoji : Bool} {cs : List Char} (h : Verbatim emoji cs) :
    unescapedBrackets cs = cs := by
  induction cs with
  | nil => rfl
  | cons c cs ih =>
    have htail := ih (h.suffix (List.suffix_cons c cs))
    rw [unescapedBrackets.eq_def]
    split
    · rename_i rest heq
      exact absurd ⟨[], rest, heq.symm⟩ h.noEscape
    · rename_i heq
      obtain ⟨rfl, rfl⟩ := List.cons.inj heq
      rw [htail]
    · rename_i heq
      cases heq

/-! ## Emoji codes -/

lemma codeName?_eq_some {cs name : List Char} (h : codeName? cs = some name) :
    (∃ rest, cs = name ++ ':' :: rest) ∧ ':' ∉ name ∧ ∀ c ∈ name, Text.isBlank c = false := by
  induction cs generalizing name with
  | nil => cases h
  | cons c cs ih =>
    rw [codeName?] at h
    split_ifs at h with hcolon hblank
    · subst hcolon
      cases h
      exact ⟨⟨cs, rfl⟩, by simp, by simp⟩
    · obtain ⟨rest, hrest, rfl⟩ := Option.map_eq_some_iff.1 h
      obtain ⟨⟨more, hmore⟩, hc, hb⟩ := ih hrest
      refine ⟨⟨more, by rw [hmore]; rfl⟩, by simpa [Ne.symm hcolon] using hc, ?_⟩
      simpa [hblank] using hb

lemma withEmoji_skip (cs rest acc : List Char) :
    withEmoji.go (cs ++ rest) cs.length acc = withEmoji.go rest 0 acc := by
  induction cs with
  | nil => rfl
  | cons c cs ih => rw [List.cons_append, List.length_cons, withEmoji.go, ih]

lemma withEmoji_go {cs : List Char} (h : Verbatim true cs) (acc : List Char) :
    withEmoji.go cs 0 acc = cs.reverse ++ acc := by
  -- A colon settles the whole stretch up to the next one, so the induction is on the length.
  induction hn : cs.length using Nat.strong_induction_on generalizing cs acc with
  | _ n ih =>
    subst hn
    cases cs with
    | nil => rfl
    | cons c cs =>
      have hstep : withEmoji.go cs 0 (c :: acc) = (c :: cs).reverse ++ acc := by
        rw [ih cs.length (by simp) (h.suffix (List.suffix_cons c cs)) (c :: acc) rfl]
        simp
      rw [withEmoji.go]
      split
      · rename_i hc
        subst hc
        cases hname : codeName? cs with
        | none => exact hstep
        | some name =>
          obtain ⟨⟨rest, rfl⟩, hcolon, hblank⟩ := codeName?_eq_some hname
          have hnone : emojiOf? name = none :=
            h.noEmoji rfl name hcolon hblank ⟨[], rest, by simp⟩
          have hskip := withEmoji_skip (name ++ [':']) rest
          simp only [List.append_assoc, List.singleton_append, List.length_append,
            List.length_singleton] at hskip
          have hrest : Verbatim true rest :=
            h.suffix ⟨':' :: (name ++ [':']), by simp⟩
          simp only [hnone, Option.getD_none]
          rw [hskip, ih rest.length (by simp; omega) hrest _ rfl]
          simp
      · exact hstep

lemma Verbatim.withEmoji_eq {emoji : Bool} {cs : List Char} (h : Verbatim emoji cs) :
    (if emoji then withEmoji cs else cs) = cs := by
  cases emoji with
  | false => rfl
  | true => simp [withEmoji, withEmoji_go h]

/-! ## Reading -/

/-- **A text without anything to interpret stands for itself.** -/
theorem ofMarkup_of_verbatim {emoji : Bool} {s : String} (h : Verbatim emoji s.toList)
    (hp : IsPrintable s.toList) :
    StyledText.ofMarkup emoji s = .ok { chars := s.toList } := by
  rw [StyledText.ofMarkup]
  split
  · rename_i hbracket
    have hne : s.toList ≠ [] := by
      intro hnil
      simp [hnil] at hbracket
    rw [h.markupPieces_eq hne]
    simp only [List.foldlM_cons, List.foldlM_nil, MarkupState.read, h.unescapedBrackets_eq,
      h.withEmoji_eq, hp.printable_eq]
    show Except.ok (MarkupState.text { chars := [] ++ s.toList }) = _
    simp [MarkupState.text]
  · rw [h.withEmoji_eq, hp.printable_eq]

end ElmOnSave.Terminal
