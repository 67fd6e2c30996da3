import ElmOnSave.Proofs.FailingSteps
import ElmOnSave.Proofs.JsonTokens
import ElmOnSave.Text.Blank

/-!
# JSON texts are read as their values

The grammar goes down the value, and the reader keeps a stack of what is open.  They meet in
`ReadAs`: whatever lists and objects are open around a text, the machine that waits for a value reads
the text and delivers its value to them.  `Spelling.readAs` proves this by induction on the spelling;
the items and members after the first are read by `reads_items` and `reads_members`, in which the
frame on top of the stack holds what has been read so far.

The result is `Spells.read`: within the limits of the reader every JSON text is read as its value.
A text of blanks, also of those that are none to the grammar, has no value (`isBlankText_of_read`),
and neither has a text with a character with which no token starts (`read_ne_ok_of_tokens`).
-/

namespace ElmOnSave.Json

/-- The limits of the reader. -/
def Limits.reader [Platform] : Limits :=
  ⟨(· ≤ Decimal.digitLimit), (· < Platform.jsonNesting)⟩

/-! ## What the machine waits for -/

/-- The machine waits for a value inside the given lists and objects. -/
def Stage.Wants (s : Stage) (fs : List Frame) : Prop :=
  s = ⟨fs, .value⟩ ∨ s = ⟨fs, .valueOrClose⟩

/-- Where a value is due, a token that starts one is taken as such. -/
lemma Stage.Wants.feed [Platform] {s : Stage} {fs : List Frame} (h : s.Wants fs) {t : Token}
    (hclose : t ≠ .closeArray) (pos : Nat) : s.feed t pos = takeValue fs pos t := by
  rcases h with rfl | rfl
  · rfl
  · cases t <;> first | rfl | exact absurd rfl hclose

/-- The machine waits for a name of an object with the given entries. -/
def Stage.WantsName (s : Stage) (entries : List (Text × Value)) (fs : List Frame) : Prop :=
  ∃ name, s = ⟨.object entries name :: fs, .name⟩ ∨ s = ⟨.object entries name :: fs, .nameOrClose⟩

lemma Stage.WantsName.feed [Platform] {s : Stage} {entries : List (Text × Value)} {fs : List Frame}
    (h : s.WantsName entries fs) (t : Text) (pos : Nat) :
    s.feed (.string t) pos = .ok ⟨.object entries t :: fs, .colon⟩ := by
  obtain ⟨name, rfl | rfl⟩ := h <;> rfl

lemma push_of_room [Platform] {fs : List Frame} (room : fs.length < Platform.jsonNesting)
    (f : Frame) (next : Expecting) : push f next fs = .ok ⟨f :: fs, next⟩ :=
  if_neg (by omega)

lemma Stage.Wants.feed_openArray [Platform] {s : Stage} {fs : List Frame} (h : s.Wants fs)
    (room : fs.length < Platform.jsonNesting) (pos : Nat) :
    s.feed .openArray pos = .ok ⟨.array [] :: fs, .valueOrClose⟩ :=
  (h.feed (by simp) pos).trans (push_of_room room _ _)

lemma Stage.Wants.feed_openObject [Platform] {s : Stage} {fs : List Frame} (h : s.Wants fs)
    (room : fs.length < Platform.jsonNesting) (pos : Nat) :
    s.feed .openObject pos = .ok ⟨.object [] default :: fs, .nameOrClose⟩ :=
  (h.feed (by simp) pos).trans (push_of_room room _ _)

/-- A text is read as a value, whatever is open around it. -/
def ReadAs [Platform] (depth : Nat) (v : Value) (text : List Char) : Prop :=
  ∀ (fs : List Frame) {s : Stage} {rest : List Char} {r : Except Objection Value}, s.Wants fs →
    fs.length = depth → Ends rest → (deliver v fs).Reads rest r → s.Reads (text ++ rest) r

/-! ## Lists and objects -/

lemma separated_cons (text : List Char) (texts : List (List Char)) :
    separated (text :: texts) = text ++ texts.flatMap fun t => ',' :: t := by
  induction texts generalizing text with
  | nil => simp [separated]
  | cons t ts ih =>
    rw [List.flatMap_cons, List.cons_append, ← ih t]
    simp [separated, List.intercalate]

section Parts

variable {fs : List Frame} {rest : List Char} {r : Except Objection Value}

/-- An item is read with the blanks around it. -/
lemma reads_item [Platform] (fs : List Frame) {s : Stage} {i : Item} (hs : s.Wants fs)
    (spelled : ReadAs fs.length i.value i.text) (hrest : Ends rest)
    (h : (deliver i.value fs).Reads rest r) : s.Reads (i.written ++ rest) r := by
  rw [Item.written, List.append_assoc, List.append_assoc]
  refine Stage.Reads.blanks i.before (spelled fs hs rfl (ends_blanks i.after hrest) ?_)
  exact Stage.Reads.blanks i.after h

/-- Behind an item or a member comes a comma or the end of its list or object. -/
lemma ends_others {α : Type} (written : α → List Char) (others : List α) {c : Char}
    (hc : c = ']' ∨ c = '\x7d') :
    Ends ((others.flatMap fun o => ',' :: written o) ++ c :: rest) := by
  cases others with
  | nil => exact ends_cons (.inr (.inr hc)) _
  | cons o others => exact ends_cons (.inr (.inl rfl)) _

/-- The items after the first are read one by one. -/
lemma reads_items [Platform] {others : List Item}
    (spelled : ∀ i ∈ others, ReadAs (fs.length + 1) i.value i.text) (items : List Value)
    (h : (deliver (.list (items.reverse ++ others.map Item.value)) fs).Reads rest r) :
    Stage.Reads ⟨.array items :: fs, .commaOrClose⟩
      ((others.flatMap fun i => ',' :: i.written) ++ ']' :: rest) r := by
  induction others generalizing items with
  | nil =>
    refine Stage.Reads.mark rfl rfl (fun _ => rfl) ?_
    simpa using h
  | cons i others ih =>
    rw [List.forall_mem_cons] at spelled
    have hrest := ih spelled.2 (i.value :: items) (by simpa using h)
    rw [List.flatMap_cons, List.append_assoc, List.cons_append]
    refine Stage.Reads.mark rfl rfl (fun _ => rfl) ?_
    have hends : Ends ((others.flatMap fun i => ',' :: i.written) ++ ']' :: rest) :=
      ends_others _ others (.inl rfl)
    exact reads_item (.array items :: fs) (.inl rfl) spelled.1 hends hrest

/-- A member is read into the entries so far. -/
lemma reads_member [Platform] {s : Stage} {entries : List (Text × Value)} {m : Member}
    (hs : s.WantsName entries fs) (name : StringBody m.points m.name)
    (spelled : ReadAs (fs.length + 1) m.item.value m.item.text) (hrest : Ends rest)
    (h : Stage.Reads ⟨.object (Entries.put entries m.entry.1 m.entry.2) m.entry.1 :: fs,
      .commaOrClose⟩ rest r) : s.Reads (m.written ++ rest) r := by
  simp only [Member.written, List.append_assoc, List.cons_append]
  refine Stage.Reads.blanks m.before (Stage.Reads.string name (hs.feed _) ?_)
  refine Stage.Reads.blanks m.after (Stage.Reads.mark rfl rfl (fun _ => rfl) ?_)
  exact reads_item (.object entries _ :: fs) (.inl rfl) spelled hrest h

/-- The members after the first are read one by one. -/
lemma reads_members [Platform] {others : List Member}
    (names : ∀ m ∈ others, StringBody m.points m.name)
    (spelled : ∀ m ∈ others, ReadAs (fs.length + 1) m.item.value m.item.text)
    (entries : List (Text × Value)) (name : Text)
    (h : (deliver (.table ((others.map Member.entry).foldl
      (fun es e => Entries.put es e.1 e.2) entries)) fs).Reads rest r) :
    Stage.Reads ⟨.object entries name :: fs, .commaOrClose⟩
      ((others.flatMap fun m => ',' :: m.written) ++ '\x7d' :: rest) r := by
  induction others generalizing entries name with
  | nil => exact Stage.Reads.mark rfl rfl (fun _ => rfl) h
  | cons m others ih =>
    rw [List.forall_mem_cons] at names spelled
    have hrest := ih names.2 spelled.2 _ m.entry.1 h
    rw [List.flatMap_cons, List.append_assoc, List.cons_append]
    refine Stage.Reads.mark rfl rfl (fun _ => rfl) ?_
    exact reads_member ⟨name, .inl rfl⟩ names.1 spelled.1 (ends_others _ others (.inr rfl)) hrest

end Parts

/-! ## Values -/

/-- A constant is cut off where it ends. -/
lemma scalar?_of_mem_constants {word : List Char} {v : Value} (h : (word, v) ∈ constants)
    (rest : List Char) : scalar? (word ++ rest) = some (.scalar v, word.length) := by
  simp only [constants, List.mem_cons, Prod.mk.injEq, List.not_mem_nil, or_false] at h
  rcases h with ⟨rfl, rfl⟩ | ⟨rfl, rfl⟩ | ⟨rfl, rfl⟩ | ⟨rfl, rfl⟩ | ⟨rfl, rfl⟩ | ⟨rfl, rfl⟩ <;> rfl

/-- A constant starts with no blank, no mark and no quote. -/
lemma exists_cons_of_mem_constants {word : List Char} {v : Value} (h : (word, v) ∈ constants) :
    ∃ c cs, word = c :: cs ∧ isSpace c = false ∧ mark? c = none ∧ c ≠ '"' := by
  simp only [constants, List.mem_cons, Prod.mk.injEq, List.not_mem_nil, or_false] at h
  rcases h with ⟨rfl, -⟩ | ⟨rfl, -⟩ | ⟨rfl, -⟩ | ⟨rfl, -⟩ | ⟨rfl, -⟩ | ⟨rfl, -⟩ <;>
    exact ⟨_, _, rfl, rfl, rfl, by decide⟩

/-- **A spelling is read as its value**, whatever is open around it. -/
theorem Spelling.readAs [Platform] {depth : Nat} {v : Value} {text : List Char}
    (h : Spelling .reader depth v text) : ReadAs depth v text := by
  induction h with
  | constant depth mem =>
    intro fs s rest r hs _ _ h
    have hword := scalar?_of_mem_constants mem rest
    obtain ⟨c, cs, rfl, hspace, hmark, hquote⟩ := exists_cons_of_mem_constants mem
    exact Stage.Reads.scalar hspace hmark hquote hword (hs.feed (by simp)) h
  | number depth n fits =>
    intro fs s rest r hs _ hrest h
    exact Stage.Reads.number n fits hrest (hs.feed (by simp)) h
  | string depth body =>
    intro fs s rest r hs _ _ h
    rw [List.cons_append, List.append_assoc]
    exact Stage.Reads.string body (hs.feed (by simp)) h
  | emptyList fits blanks =>
    intro fs s rest r hs hdepth _ h
    subst hdepth
    rw [List.cons_append, List.append_assoc]
    refine Stage.Reads.mark rfl rfl (hs.feed_openArray fits) (Stage.Reads.blanks blanks ?_)
    exact Stage.Reads.mark rfl rfl (fun _ => rfl) h
  | @list depth fits items some _ ih =>
    intro fs s rest r hs hdepth _ h
    subst hdepth
    obtain ⟨first, others, rfl⟩ := List.exists_cons_of_ne_nil some
    rw [List.forall_mem_cons] at ih
    rw [List.map_cons, separated_cons, List.flatMap_map]
    simp only [List.cons_append, List.append_assoc, List.nil_append]
    refine Stage.Reads.mark rfl rfl (hs.feed_openArray fits) ?_
    refine reads_item (.array [] :: fs) (.inr rfl) ih.1 (ends_others _ others (.inl rfl)) ?_
    exact reads_items ih.2 [first.value] h
  | emptyObject fits blanks =>
    intro fs s rest r hs hdepth _ h
    subst hdepth
    rw [List.cons_append, List.append_assoc]
    refine Stage.Reads.mark rfl rfl (hs.feed_openObject fits) (Stage.Reads.blanks blanks ?_)
    exact Stage.Reads.mark rfl rfl (fun _ => rfl) h
  | @object depth fits members some names _ ih =>
    intro fs s rest r hs hdepth _ h
    subst hdepth
    obtain ⟨first, others, rfl⟩ := List.exists_cons_of_ne_nil some
    rw [List.forall_mem_cons] at names ih
    rw [List.map_cons, separated_cons, List.flatMap_map]
    simp only [List.cons_append, List.append_assoc, List.nil_append]
    refine Stage.Reads.mark rfl rfl (hs.feed_openObject fits) ?_
    refine reads_member ⟨_, .inr rfl⟩ names.1 ih.1 (ends_others _ others (.inr rfl)) ?_
    exact reads_members names.2 ih.2 [first.entry] first.entry.1 h

/-! ## Whole texts -/

section Texts

variable {cs : List Char}

lemma Stage.Reads.readAt [Platform] {r : Except Objection Value}
    (h : Stage.Reads ⟨[], .value⟩ cs r) :
    readAt cs = r :=
  h (cs.length + 1) 0 (Nat.lt_succ_self _)

/-- A text with a byte order mark in front is not expected. -/
lemma readAt_marker [Platform] (cs : List Char) :
    Json.readAt ('\uFEFF' :: cs) = .error (.complaint .expectingValue 0) := by
  have htokens : tokens ('\uFEFF' :: cs) = ([(.stray, 0)], 0) := by
    rfl
  rw [Json.readAt, htokens]
  rfl

/-- What is read does not depend on the words for what may be wrong. -/
lemma read_eq_ok_iff [Platform] {v : Value} : Json.read cs = .ok v ↔ Json.readAt cs = .ok v := by
  unfold Json.read
  split
  · rw [readAt_marker]
    exact iff_of_false nofun nofun
  · exact mapError_eq_ok_iff

/-- A text that is answered with a value is read as that value. -/
lemma Stage.Reads.read [Platform] {v : Value} (h : Stage.Reads ⟨[], .value⟩ cs (.ok v)) :
    Json.read cs = .ok v :=
  read_eq_ok_iff.2 h.readAt

/-- A text that is refused for the size of an integer is refused with it. -/
lemma Stage.Reads.read_long [Platform] {n : Nat}
    (h : Stage.Reads ⟨[], .value⟩ cs (.error (.integerTooLong n))) :
    Json.read cs = .error (.integerTooLong n) := by
  have hread := h.readAt
  unfold Json.read
  split
  · rw [readAt_marker] at hread
    cases hread
  · rw [hread]
    rfl

end Texts

/-- **Within the limits every JSON text is read as its value.** -/
theorem Spells.read [Platform] {v : Value} {cs : List Char} (h : Spells .reader v cs) :
    read cs = .ok v := by
  obtain ⟨before, after, text, spelled, rfl⟩ := h
  have hend : Stage.Reads ⟨[], .nothing v⟩ after.chars (.ok v) := by
    rw [← List.append_nil after.chars]
    exact Stage.Reads.blanks after Stage.Reads.nil
  have hafter : Ends after.chars := by
    rw [← List.append_nil after.chars]
    exact ends_blanks after ends_nil
  have hvalue : Stage.Reads ⟨[], .value⟩ (text ++ after.chars) (.ok v) :=
    spelled.readAs [] (.inl rfl) rfl hafter hend
  exact (Stage.Reads.blanks before hvalue).read

/-! ## Texts without a value -/

/-- No constant and no number starts with a blank. -/
lemma scalar?_of_isBlank {c : Char} (hc : Text.isBlank c = true) (cs : List Char) :
    scalar? (c :: cs) = none := by
  have hne : ∀ d : Char, Text.isBlank d = false → d ≠ c := by
    rintro d hd rfl
    rw [hc] at hd
    cases hd
  have hword : constants.find? (fun k => k.1.isPrefixOf (c :: cs)) = none := by
    simp [constants, List.isPrefixOf, hne 'n' rfl, hne 't' rfl, hne 'f' rfl, hne 'N' rfl,
      hne 'I' rfl, hne '-' rfl]
  have hdigit : Text.isAsciiDigit c = false := by
    simp only [Text.isBlank, Bool.or_eq_true, Bool.and_eq_true, decide_eq_true_eq,
      beq_iff_eq] at hc
    simp only [Text.isAsciiDigit, Bool.and_eq_false_iff, decide_eq_false_iff_not]
    omega
  have hwhole : wholePart (c :: cs) = [] := by
    rw [wholePart]
    · exact List.takeWhile_cons_of_neg (by simp [hdigit])
    · rintro _ ⟨⟩
      exact hne '0' rfl rfl
  have hnumber : number? (c :: cs) = none := by
    unfold number?
    split
    rename_i hsigns
    split at hsigns
    · rename_i heq
      cases heq
      exact absurd rfl (hne '-' rfl)
    · cases hsigns
      simp [hwhole]
  rw [scalar?, hword, hnumber]
  rfl

/-- Among blanks there is no token, or a stray character comes first. -/
lemma scan_of_blank {cs : List Char} (hcs : ∀ c ∈ cs, Text.isBlank c = true) (fuel pos : Nat) :
    (scan fuel cs pos []).1 = [] ∨ ∃ offset, (scan fuel cs pos []).1 = [(.stray, offset)] := by
  induction cs generalizing fuel pos with
  | nil => cases fuel <;> exact .inl rfl
  | cons c cs ih =>
    rw [List.forall_mem_cons] at hcs
    obtain ⟨hc, hcs⟩ := hcs
    have hmark : mark? c = none := by
      unfold mark?
      split <;> first | rfl | cases hc
    have hquote : (c == '"') = false := by
      rw [beq_eq_false_iff_ne]
      rintro rfl
      cases hc
    cases fuel with
    | zero => exact .inl rfl
    | succ fuel =>
      rw [scan_cons]
      split
      · exact ih hcs fuel (pos + 1)
      · simp [hmark, hquote, scalar?_of_isBlank hc]

/-- A line that decodes is not blank. -/
lemma isBlankText_of_read [Platform] {cs : List Char} {v : Value} (h : Json.read cs = .ok v) :
    Text.isBlankText cs = false := by
  rw [Bool.eq_false_iff]
  intro hblank
  have hread : readAt cs ≠ .ok v := by
    have hscan := scan_of_blank (List.all_eq_true.1 hblank) (cs.length + 1) 0
    rw [readAt, tokens]
    generalize scan (cs.length + 1) cs 0 [] = tokens at hscan ⊢
    obtain ⟨ts, finish⟩ := tokens
    rcases hscan with rfl | ⟨offset, rfl⟩
    · exact nofun
    · exact nofun
  exact hread (read_eq_ok_iff.1 h)

/-- A character with which no token starts is an objection, whatever is expected. -/
lemma Stage.exists_feed_stray [Platform] (s : Stage) (offset : Nat) :
    ∃ o, s.feed .stray offset = .error o := by
  obtain ⟨stack, expecting⟩ := s
  cases expecting <;> exact ⟨_, rfl⟩

lemma Stage.feedAll_stray_ne_ok [Platform] (s t : Stage) (ts : List (Token × Nat)) (offset : Nat) :
    s.feedAll (ts ++ [(.stray, offset)]) ≠ .ok t := by
  induction ts generalizing s with
  | nil =>
    obtain ⟨o, ho⟩ := s.exists_feed_stray offset
    rw [List.nil_append, feedAll, ho]
    rintro ⟨⟩
  | cons token ts ih =>
    rw [List.cons_append, feedAll]
    split
    · exact ih _
    · rintro ⟨⟩

/-- A text with a character with which no token starts is no document. -/
lemma read_ne_ok_of_tokens [Platform] {cs : List Char} {ts : List (Token × Nat)}
    {offset finish : Nat}
    (h : tokens cs = (ts ++ [(.stray, offset)], finish)) (v : Value) : read cs ≠ .ok v := by
  intro hread
  have hat := read_eq_ok_iff.1 hread
  rw [readAt, h] at hat
  dsimp only at hat
  split at hat
  · rename_i t hfed
    exact Stage.feedAll_stray_ne_ok _ t ts offset hfed
  · cases hat

lemma read_nil_ne_ok [Platform] (v : Value) : read [] ≠ .ok v := by
  rintro ⟨⟩

end ElmOnSave.Json
