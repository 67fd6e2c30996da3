import ElmOnSave.Json.Writer
import ElmOnSave.Proofs.JsonReading
import ElmOnSave.Proofs.Registers

/-!
# A written value is read back

What `Json.write` and `Json.compact` put down for a value are texts the grammar allows for it
(`Spellable.spelling_write`, `Spellable.spelling_compact`), so the reader reads them as the value:
`read_write`, and with the names of all objects put in order `read_pretty`.  The proofs are by
induction on the value; over several lines the items of a list and the entries of an object are laid
out one to a line (`layout`), with a new line behind the last.

Not every value is told by what is written for it, and `Spellable` says which are: a name that
occurs twice would leave one value, and a text with half of a surrogate pair may find the other half
beside it.  Within the limits of the reader, on the digits of an integer and on the nesting, such a
value is `Readable`.
-/

namespace ElmOnSave

namespace Json

/-! ## Values that are read back -/

/-- A value that is told by what is written for it, inside a number of lists and objects: its
integers and its depth are within the limits, its texts are whole, and no name of an object occurs
twice. -/
inductive Spellable (limits : Limits) : Nat → Value → Prop where
  | null (depth : Nat) : Spellable limits depth .null
  | bool (depth : Nat) (b : Bool) : Spellable limits depth (.bool b)
  | int {depth : Nat} {i : Int} (fits : limits.digits (Text.natDigits i.natAbs).length) :
      Spellable limits depth (.int i)
  | text (depth : Nat) (s : String) : Spellable limits depth (.text (.whole s))
  | list {depth : Nat} {items : List Value} (fits : limits.depth depth)
      (spellable : ∀ v ∈ items, Spellable limits (depth + 1) v) :
      Spellable limits depth (.list items)
  | table {depth : Nat} {entries : List (Text × Value)} (fits : limits.depth depth)
      (names : ∀ e ∈ entries, ∃ s, e.1 = .whole s) (distinct : (Entries.keys entries).Nodup)
      (spellable : ∀ e ∈ entries, Spellable limits (depth + 1) e.2) :
      Spellable limits depth (.table entries)

/-- A value that is read back from what is written for it. -/
abbrev Readable [Platform] : Nat → Value → Prop :=
  Spellable .reader

/-! ## Strings -/

lemma hexValue?_hexDigit {n : Nat} (h : n < 16) : Text.hexValue? (Text.hexDigit n) = some n := by
  interval_cases n <;> rfl

lemma unitEscape_eq (n : Nat) :
    unitEscape n = ['\\', 'u', Text.hexDigit (n / 4096 % 16), Text.hexDigit (n / 256 % 16),
      Text.hexDigit (n / 16 % 16), Text.hexDigit (n % 16)] := by
  rw [unitEscape]
  simp [Text.hexPadded, List.range_succ]

lemma hex4?_hexDigit {n : Nat} (h : n < 0x10000) :
    hex4? (Text.hexDigit (n / 4096 % 16)) (Text.hexDigit (n / 256 % 16))
      (Text.hexDigit (n / 16 % 16)) (Text.hexDigit (n % 16)) = some n := by
  have hdigit : ∀ m, Text.hexValue? (Text.hexDigit (m % 16)) = some (m % 16) := fun m =>
    hexValue?_hexDigit (Nat.mod_lt m (by decide))
  simp only [hex4?, hdigit, Option.bind_eq_bind, Option.bind_some, pure, Option.some.injEq]
  omega

/-- A character that is no surrogate. -/
lemma not_isSurrogate_toNat (c : Char) : Text.isSurrogate c.toNat = false := by
  have hc : c.toNat < 0xD800 ∨ 0xDFFF < c.toNat ∧ c.toNat < 0x110000 := c.valid
  simp only [Text.isSurrogate, Bool.and_eq_false_iff, decide_eq_false_iff_not]
  omega

/-- What is written for a character stands for it. -/
lemma stringBody_escaped (c : Char) {points : List Nat} {cs : List Char}
    (rest : StringBody points cs) :
    StringBody (c.toNat :: points) (escaped c.toNat ++ cs) := by
  have hc : c.toNat < 0xD800 ∨ 0xDFFF < c.toNat ∧ c.toNat < 0x110000 := c.valid
  unfold escaped
  split_ifs with quote back feed ret tab page backspace printable basic
  · rw [quote]; exact .letter rfl rest
  · rw [back]; exact .letter rfl rest
  · rw [feed]; exact .letter rfl rest
  · rw [ret]; exact .letter rfl rest
  · rw [tab]; exact .letter rfl rest
  · rw [page]; exact .letter rfl rest
  · rw [backspace]; exact .letter rfl rest
  · have hquote : c ≠ '"' := by rintro rfl; exact quote rfl
    have hback : c ≠ '\\' := by rintro rfl; exact back rfl
    rw [Char.ofNat_toNat]
    exact .plain hquote hback printable.1 rest
  · rw [unitEscape_eq]
    refine .unit (hex4?_hexDigit basic) (fun high => ?_) rest
    unfold IsHighHalf at high
    omega
  · -- Outside the basic plane the two halves make up the character again.
    have hjoined : joined (0xD800 + (c.toNat - 0x10000) / 0x400)
        (0xDC00 + (c.toNat - 0x10000) % 0x400) = c.toNat := by
      unfold joined
      omega
    have hpair := StringBody.pair (hex4?_hexDigit (n := 0xD800 + (c.toNat - 0x10000) / 0x400)
      (by omega)) ⟨by omega, by omega⟩
      (hex4?_hexDigit (n := 0xDC00 + (c.toNat - 0x10000) % 0x400) (by omega))
      ⟨by omega, by omega⟩ rest
    rw [hjoined] at hpair
    simpa only [unitEscape_eq, List.cons_append, List.nil_append] using hpair

/-- What is written for a text stands for it. -/
lemma stringBody_flatMap_escaped (cs : List Char) :
    StringBody (cs.map Char.toNat) ((cs.map Char.toNat).flatMap escaped) := by
  induction cs with
  | nil => exact .nil
  | cons c cs ih => exact stringBody_escaped c ih

lemma ofPoints_points (s : String) : Text.ofPoints (Text.points (.whole s)) = .whole s := by
  have hno : (s.toList.map Char.toNat).any Text.isSurrogate = false := by
    simp [not_isSurrogate_toNat]
  rw [Text.points, Text.ofPoints, hno]
  simp [Function.comp_def, Char.ofNat_toNat]

/-! ## Integers -/

lemma natDigits_eq (n : Nat) : Text.natDigits n = Nat.toDigits 10 n := Nat.toList_repr

lemma natDigits_ne_nil (n : Nat) : Text.natDigits n ≠ [] := by
  rw [natDigits_eq]
  exact Nat.toDigits_ne_nil

lemma isAsciiDigit_of_mem_natDigits {n : Nat} {c : Char} (h : c ∈ Text.natDigits n) :
    Text.isAsciiDigit c = true := by
  rw [natDigits_eq] at h
  have hc := Nat.isDigit_of_mem_toDigits (by decide) (by decide) h
  simp only [Char.isDigit, Bool.and_eq_true, decide_eq_true_eq] at hc
  simp only [Text.isAsciiDigit, Bool.and_eq_true, decide_eq_true_eq]
  exact hc

/-- Only zero is spelled with a zero in front. -/
lemma head?_natDigits {n : Nat} (h : 0 < n) : (Text.natDigits n).head? ≠ some '0' := by
  rw [natDigits_eq]
  induction n using Nat.strong_induction_on with
  | _ n ih =>
    rw [Nat.toDigits_eq_if (by decide)]
    split
    · rename_i hn
      interval_cases n <;> decide
    · rename_i hn
      rw [List.head?_append_of_ne_nil _ Nat.toDigits_ne_nil]
      exact ih (n / 10) (by omega) (by omega)

lemma ofDigits_of_ascii {cs : List Char} (h : ∀ c ∈ cs, Text.isAsciiDigit c = true) (m : Nat) :
    (cs.map fun c => (Text.digitValue? c).getD 0).foldl (fun n d => n * 10 + d) m =
      Nat.ofDigitChars 10 cs m := by
  induction cs generalizing m with
  | nil => rfl
  | cons c cs ih =>
    have hc := h c (List.mem_cons_self ..)
    simp only [Text.isAsciiDigit, Bool.and_eq_true, decide_eq_true_eq] at hc
    have hvalue : Text.digitValue? c = some (c.toNat - 48) := by
      have h128 : c.toNat < 128 := by omega
      simp [Text.digitValue?, h128, hc]
    rw [List.map_cons, List.foldl_cons, ih fun x hx => h x (List.mem_cons_of_mem _ hx), hvalue,
      Nat.ofDigitChars_cons, Nat.mul_comm]
    rfl

/-- The digits of a number spell it. -/
lemma ofDigits_natDigits (n : Nat) : Text.ofDigits (Text.natDigits n) = n := by
  rw [Text.ofDigits, Text.ofDigitValues,
    ofDigits_of_ascii fun c => isAsciiDigit_of_mem_natDigits, natDigits_eq]
  exact Nat.ofDigitChars_toDigits (by decide) (by decide)

/-- An integer in its parts. -/
def Numeral.ofInt (i : Int) : Numeral where
  negative := decide (i < 0)
  whole := Text.natDigits i.natAbs
  fraction := []
  exponent := none
  wholeDigit _ := isAsciiDigit_of_mem_natDigits
  wholeSome := natDigits_ne_nil _
  noZero h := by
    rcases Nat.eq_zero_or_pos i.natAbs with hzero | hpos
    · rw [hzero]
      rfl
    · exact absurd h (head?_natDigits hpos)
  fractionDigit := nofun

lemma Numeral.written_ofInt (i : Int) : (ofInt i).written = Value.intText i := by
  simp [written, unsigned, fractionWritten, exponentWritten, ofInt, Value.intText]

lemma Numeral.value_ofInt (i : Int) : (ofInt i).value = .int i := by
  have hsign : (if i < 0 then -(i.natAbs : Int) else i.natAbs) = i := by
    split <;> omega
  simpa [value, isInteger, ofInt, ofDigits_natDigits] using hsign

/-- What may be written is what is not too long to be read. -/
lemma length_natDigits_le_iff (i : Int) :
    (Text.natDigits i.natAbs).length ≤ Decimal.digitLimit ↔ Decimal.isWritable i = true := by
  rw [Decimal.isWritable_iff, Nat.pow_eq, natDigits_eq,
    Nat.length_toDigits_le_iff (by decide) (by decide)]

/-! ## Lists and objects -/

/-- A new line is made of blanks. -/
def Blanks.newLine (level : Nat) : Blanks where
  chars := Json.newLine level
  blank c hc := by
    rcases List.mem_cons.1 hc with rfl | hc
    · rfl
    · rw [List.eq_of_mem_replicate hc]
      rfl

/-- One blank. -/
def Blanks.space : Blanks :=
  ⟨[' '], List.forall_mem_singleton.2 rfl⟩

/-- An item on a line of its own. -/
def itemOf (level : Nat) (v : Value) (after : Blanks) : Item :=
  ⟨.newLine (level + 1), v, write (level + 1) v, after⟩

/-- An entry on a line of its own. -/
def memberOf (level : Nat) (e : Text × Value) (after : Blanks) : Member :=
  ⟨.newLine (level + 1), e.1.points, e.1.points.flatMap escaped, .none,
    ⟨.space, e.2, write (level + 1) e.2, after⟩⟩

section Layout

variable {α β : Type} (piece : α → Blanks → β) (last : Blanks)

/-- One piece for each element, with blanks behind the last. -/
def layout : List α → List β
  | [] => []
  | [a] => [piece a last]
  | a :: b :: as => piece a .none :: layout (b :: as)

lemma layout_ne_nil (a : α) (as : List α) : layout piece last (a :: as) ≠ [] := by
  cases as <;> simp [layout]

lemma exists_of_mem_layout {as : List α} {p : β} (h : p ∈ layout piece last as) :
    ∃ a ∈ as, ∃ after, p = piece a after := by
  fun_induction layout piece last as with
  | case1 => cases h
  | case2 a => exact ⟨a, List.mem_cons_self .., last, List.mem_singleton.1 h⟩
  | case3 a b as ih =>
    rcases List.mem_cons.1 h with rfl | h
    · exact ⟨a, List.mem_cons_self .., .none, rfl⟩
    · obtain ⟨a', ha, hafter⟩ := ih h
      exact ⟨a', List.mem_cons_of_mem _ ha, hafter⟩

lemma map_layout {γ : Type} {f : β → γ} {g : α → γ} {as : List α}
    (h : ∀ a ∈ as, ∀ after, f (piece a after) = g a) :
    (layout piece last as).map f = as.map g := by
  fun_induction layout piece last as with
  | case1 => rfl
  | case2 a => simp [h]
  | case3 a b as ih =>
    rw [List.forall_mem_cons] at h
    rw [List.map_cons, ih h.2, h.1, List.map_cons (l := b :: as)]

end Layout

lemma separated_cons_cons (text text' : List Char) (texts : List (List Char)) :
    separated (text :: text' :: texts) = text ++ ',' :: separated (text' :: texts) := by
  rw [separated_cons, separated_cons, List.flatMap_cons, List.cons_append]

/-- The items of a list as they are written. -/
lemma writeItems_eq (level : Nat) (v : Value) (vs : List Value) :
    newLine (level + 1) ++ write (level + 1) v ++ writeItems level vs =
      separated ((layout (itemOf level) (.newLine level) (v :: vs)).map Item.written) ++
        [']'] := by
  induction vs generalizing v with
  | nil => simp [layout, separated, itemOf, Item.written, writeItems, Blanks.newLine]
  | cons u vs ih =>
    obtain ⟨p, ps, hlayout⟩ := List.exists_cons_of_ne_nil
      (layout_ne_nil (itemOf level) (.newLine level) u vs)
    have hseparated := separated_cons_cons (itemOf level v .none).written p.written
      (ps.map Item.written)
    rw [writeItems, ih u, layout, hlayout]
    simp only [List.map_cons, hseparated]
    simp [itemOf, Item.written, Blanks.newLine, Blanks.none]

/-- The entries of an object as they are written. -/
lemma writeEntries_eq (level : Nat) (e : Text × Value) (es : List (Text × Value)) :
    newLine (level + 1) ++ string e.1 ++ ':' :: ' ' :: write (level + 1) e.2 ++
        writeEntries level es =
      separated ((layout (memberOf level) (.newLine level) (e :: es)).map Member.written) ++
        ['\x7d'] := by
  induction es generalizing e with
  | nil =>
    simp [layout, separated, memberOf, Member.written, Item.written, writeEntries, Blanks.newLine,
      Blanks.none, Blanks.space, string]
  | cons e' es ih =>
    obtain ⟨p, ps, hlayout⟩ := List.exists_cons_of_ne_nil
      (layout_ne_nil (memberOf level) (.newLine level) e' es)
    obtain ⟨k, v⟩ := e'
    have hseparated := separated_cons_cons (memberOf level e .none).written p.written
      (ps.map Member.written)
    rw [writeEntries, ih (k, v), layout, hlayout]
    simp only [List.map_cons, hseparated]
    simp [memberOf, Member.written, Item.written, Blanks.newLine, Blanks.none, Blanks.space,
      string]

/-- An item without blanks. -/
def bareItem (v : Value) : Item :=
  ⟨.none, v, compact v, .none⟩

/-- An entry without blanks. -/
def bareMember (e : Text × Value) : Member :=
  ⟨.none, e.1.points, e.1.points.flatMap escaped, .none, bareItem e.2⟩

lemma compactItems_eq (vs : List Value) :
    compactItems vs = separated ((vs.map bareItem).map Item.written) := by
  induction vs with
  | nil => rfl
  | cons v vs ih =>
    cases vs with
    | nil => simp [compactItems, separated, bareItem, Item.written, Blanks.none]
    | cons u us =>
      rw [compactItems, ih]
      · simp only [List.map_cons, separated_cons_cons]
        simp [bareItem, Item.written, Blanks.none]
      · simp

lemma compactEntries_eq (es : List (Text × Value)) :
    compactEntries es = separated ((es.map bareMember).map Member.written) := by
  induction es with
  | nil => rfl
  | cons e es ih =>
    obtain ⟨k, v⟩ := e
    cases es with
    | nil =>
      simp [compactEntries, separated, bareMember, bareItem, Member.written, Item.written,
        Blanks.none, string]
    | cons e' es =>
      rw [compactEntries, ih]
      · simp only [List.map_cons, separated_cons_cons]
        simp [bareMember, bareItem, Member.written, Item.written, Blanks.none, string]
      · simp

/-! ## Values -/

section Values

variable {limits : Limits} {depth : Nat} {v : Value}

/-- The name an entry is written with stands for the name. -/
lemma stringBody_name {entries : List (Text × Value)} (names : ∀ e ∈ entries, ∃ s, e.1 = .whole s) :
    ∀ e ∈ entries, StringBody e.1.points (e.1.points.flatMap escaped) ∧
      Text.ofPoints e.1.points = e.1 := by
  intro e he
  obtain ⟨s, hs⟩ := names e he
  rw [hs]
  exact ⟨stringBody_flatMap_escaped s.toList, ofPoints_points s⟩

lemma spelling_null : Spelling limits depth .null "null".toList :=
  .constant depth (by simp [constants])

lemma spelling_true : Spelling limits depth (.bool true) "true".toList :=
  .constant depth (by simp [constants])

lemma spelling_false : Spelling limits depth (.bool false) "false".toList :=
  .constant depth (by simp [constants])

/-- An integer is told by its digits. -/
lemma spelling_int {i : Int} (fits : limits.digits (Text.natDigits i.natAbs).length) :
    Spelling limits depth (.int i) (Value.intText i) := by
  have hnumber : Spelling limits depth _ _ := .number depth (.ofInt i) fun _ => fits
  rwa [Numeral.value_ofInt, Numeral.written_ofInt] at hnumber

/-- A text is told by its characters, escaped. -/
lemma spelling_text (s : String) :
    Spelling limits depth (.text (.whole s)) (string (.whole s)) := by
  have hstring : Spelling limits depth _ _ := .string depth (stringBody_flatMap_escaped s.toList)
  rwa [show Text.ofPoints (s.toList.map Char.toNat) = .whole s from ofPoints_points s] at hstring

/-- **What is written for a value over several lines is a text of it.** -/
theorem Spellable.spelling_write (hv : Spellable limits depth v) (level : Nat) :
    Spelling limits depth v (write level v) := by
  induction hv generalizing level with
  | null depth =>
    rw [write]
    exact spelling_null
  | bool depth b =>
    cases b
    all_goals rw [write]
    · exact spelling_false
    · exact spelling_true
  | int fits => exact spelling_int fits
  | text depth s => exact spelling_text s
  | @list depth items fits spellable ih =>
    cases items with
    | nil => exact .emptyList fits .none
    | cons v vs =>
      have hvalue : ∀ u ∈ v :: vs, ∀ after, (itemOf level u after).value = id u :=
        fun _ _ _ => rfl
      have hlist : Spelling limits depth _ _ :=
        .list fits (layout_ne_nil (itemOf level) (.newLine level) v vs) fun i hi => by
          obtain ⟨u, hu, after, rfl⟩ := exists_of_mem_layout _ _ hi
          exact ih u hu (level + 1)
      rw [map_layout _ _ hvalue, List.map_id, ← writeItems_eq] at hlist
      exact hlist
  | @table depth entries fits names distinct spellable ih =>
    cases entries with
    | nil => exact .emptyObject fits .none
    | cons e es =>
      have hname := stringBody_name names
      have hentry : ∀ u ∈ e :: es, ∀ after, (memberOf level u after).entry = id u :=
        fun u hu _ => Prod.ext (hname u hu).2 rfl
      have hobject : Spelling limits depth _ _ :=
        .object fits (layout_ne_nil (memberOf level) (.newLine level) e es)
          (fun m hm => by
            obtain ⟨u, hu, after, rfl⟩ := exists_of_mem_layout _ _ hm
            exact (hname u hu).1)
          fun m hm => by
            obtain ⟨u, hu, after, rfl⟩ := exists_of_mem_layout _ _ hm
            exact ih u hu (level + 1)
      rw [map_layout _ _ hentry, List.map_id, Entries.ofList_eq_self distinct,
        ← writeEntries_eq] at hobject
      exact hobject

/-- **What is written for a value on one line is a text of it.** -/
theorem Spellable.spelling_compact (hv : Spellable limits depth v) :
    Spelling limits depth v (compact v) := by
  induction hv with
  | null depth =>
    rw [compact]
    exact spelling_null
  | bool depth b =>
    cases b
    all_goals rw [compact]
    · exact spelling_false
    · exact spelling_true
  | int fits => exact spelling_int fits
  | text depth s => exact spelling_text s
  | @list depth items fits spellable ih =>
    cases items with
    | nil => exact .emptyList fits .none
    | cons v vs =>
      have hsome : (v :: vs).map bareItem ≠ [] := by simp
      have hvalues : ((v :: vs).map bareItem).map Item.value = v :: vs := by
        simp [bareItem, Function.comp_def]
      have hlist : Spelling limits depth _ _ := .list fits hsome fun i hi => by
        obtain ⟨u, hu, rfl⟩ := List.mem_map.1 hi
        exact ih u hu
      rwa [hvalues, ← compactItems_eq] at hlist
  | @table depth entries fits names distinct spellable ih =>
    cases entries with
    | nil => exact .emptyObject fits .none
    | cons e es =>
      have hname := stringBody_name names
      have hsome : (e :: es).map bareMember ≠ [] := by simp
      have hentries : ((e :: es).map bareMember).map Member.entry = e :: es := by
        rw [List.map_map]
        refine (List.map_congr_left fun u hu => ?_).trans (List.map_id (e :: es))
        exact Prod.ext (hname u hu).2 rfl
      have hobject : Spelling limits depth _ _ :=
        .object fits hsome
          (fun m hm => by
            obtain ⟨u, hu, rfl⟩ := List.mem_map.1 hm
            exact (hname u hu).1)
          fun m hm => by
            obtain ⟨u, hu, rfl⟩ := List.mem_map.1 hm
            exact ih u hu
      rwa [hentries, Entries.ofList_eq_self distinct, ← compactEntries_eq] at hobject

end Values

/-- **The text of a value is read as the value.** -/
theorem read_write [Platform] {v : Value} (hv : Readable 0 v) (level : Nat) :
    read (write level v) = .ok v := by
  have hspells : Spells .reader v (write level v) :=
    ⟨.none, .none, _, hv.spelling_write level, by simp [Blanks.none]⟩
  exact hspells.read

/-! ## Sorted names -/

lemma sortedItems_eq_map (vs : List Value) : sortedItems vs = vs.map sorted := by
  induction vs with
  | nil => rfl
  | cons v vs ih => rw [sortedItems, ih, List.map_cons]

lemma sortedEntries_eq_map (es : List (Text × Value)) :
    sortedEntries es = es.map fun e => (e.1, sorted e.2) := by
  induction es with
  | nil => rfl
  | cons e es ih => rw [sortedEntries, ih, List.map_cons]

lemma sortEntries_perm {ν : Type} (es : List (Text × ν)) : (sortEntries es).Perm es :=
  List.mergeSort_perm _ _

/-- The entries of a sorted object, in some order. -/
lemma sorted_entries_perm (es : List (Text × Value)) :
    (sortEntries (sortedEntries es)).Perm (es.map fun e => (e.1, sorted e.2)) := by
  rw [← sortedEntries_eq_map]
  exact sortEntries_perm _

lemma keys_sorted_perm (es : List (Text × Value)) :
    (Entries.keys (sortEntries (sortedEntries es))).Perm (Entries.keys es) := by
  have h := (sorted_entries_perm es).map Prod.fst
  simpa [Entries.keys, Function.comp_def] using h

/-- A value with its names sorted is told by what is written for it if the value is. -/
lemma Spellable.sorted {limits : Limits} {depth : Nat} {v : Value}
    (hv : Spellable limits depth v) : Spellable limits depth (Json.sorted v) := by
  induction hv with
  | null depth => exact .null depth
  | bool depth b => exact .bool depth b
  | int fits => exact .int fits
  | text depth s => exact .text depth s
  | @list depth items fits spellable ih =>
    rw [Json.sorted, sortedItems_eq_map]
    refine .list fits fun v hv => ?_
    obtain ⟨u, hu, rfl⟩ := List.mem_map.1 hv
    exact ih u hu
  | @table depth entries fits names distinct spellable ih =>
    rw [Json.sorted]
    refine .table fits (fun e he => ?_) ((keys_sorted_perm entries).nodup_iff.2 distinct)
      fun e he => ?_
    all_goals
      obtain ⟨u, hu, rfl⟩ := List.mem_map.1 ((sorted_entries_perm entries).mem_iff.1 he)
    · exact names u hu
    · exact ih u hu

/-- **What is written for a value over several lines is read as the value with its names
sorted.** -/
theorem read_pretty [Platform] {v : Value} (hv : Readable 0 v) : read (pretty v) = .ok (sorted v) :=
  read_write hv.sorted 0

end Json

end ElmOnSave
