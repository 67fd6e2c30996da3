import ElmOnSave.Json.Reader
import ElmOnSave.Proofs.JsonGrammar

/-!
# Tokens are cut off as they are spelled

`Json.read` cuts a text into tokens and feeds them to a machine.  The lemmas here say, kind by kind,
that what the grammar allows for a token is cut off as that token, and end in a form that does
without offsets and fuel: `Stage.Reads s cs r` says that from the stage `s` on the text `cs` is
answered with `r`, wherever it stands, and is built from the end of the text backwards, one token at
a time.

* `scanString_body`: a string, up to its closing quote.  The escapes of two halves are read as one
  code point exactly where the grammar joins them;
* `scalar?_written`: a number, which ends where a blank, a comma or a closing bracket follows
  (`Ends`);
* `Stage.Reads.string`, `Stage.Reads.number`, `Stage.Reads.scalar`, `Stage.Reads.mark` and
  `Stage.Reads.blanks`: one token, or the blanks before one, in front of a text;
* `Stage.Reads.longNumber`: a number with too many digits, which is the end of the reading.

What holds of every token that can be cut off holds of all tokens of a text (`forall_mem_scan`).
-/

namespace ElmOnSave.Json

/-! ## Strings -/

/-- Two escapes by number, one right behind the other. -/
lemma scanString_twoUnits (start : Nat) (a b c d e f g h : Char) (cs : List Char) (pos : Nat)
    (acc : List Nat) :
    scanString start ('\\' :: 'u' :: a :: b :: c :: d :: '\\' :: 'u' :: e :: f :: g :: h :: cs)
        pos acc =
      match hex4? a b c d, hex4? e f g h with
      | some hi, some lo =>
        if 0xD800 ≤ hi ∧ hi ≤ 0xDBFF ∧ 0xDC00 ≤ lo ∧ lo ≤ 0xDFFF ∧ cs ≠ [] then
          scanString start cs (pos + 12)
            ((0x10000 + (hi - 0xD800) * 0x400 + (lo - 0xDC00)) :: acc)
        else scanString start ('\\' :: 'u' :: e :: f :: g :: h :: cs) (pos + 6) (hi :: acc)
      | some hi, none =>
        scanString start ('\\' :: 'u' :: e :: f :: g :: h :: cs) (pos + 6) (hi :: acc)
      | none, _ => .failed .invalidUnicodeEscape (pos + 1) := rfl

/-- An escape by number without a partner is read by itself. -/
lemma scanString_unit {a b c d : Char} {n : Nat} (escape : hex4? a b c d = some n)
    {cs : List Char} (alone : IsHighHalf n → ¬ StartsLow cs) (some : cs ≠ []) (start pos : Nat)
    (acc : List Nat) :
    scanString start ('\\' :: 'u' :: a :: b :: c :: d :: cs) pos acc =
      scanString start cs (pos + 6) (n :: acc) := by
  obtain ⟨r, cs, rfl⟩ := List.exists_cons_of_ne_nil some
  by_cases hpair : ∃ e f g h cs', r = '\\' ∧ cs = 'u' :: e :: f :: g :: h :: cs'
  · obtain ⟨e, f, g, h, cs', rfl, rfl⟩ := hpair
    rw [scanString_twoUnits, escape]
    cases hlow : hex4? e f g h with
    | none => rfl
    | some low =>
      refine if_neg ?_
      rintro ⟨hhigh₁, hhigh₂, hlow₁, hlow₂, -⟩
      exact alone ⟨hhigh₁, hhigh₂⟩ ⟨e, f, g, h, cs', low, rfl, hlow, hlow₁, hlow₂⟩
  · rw [scanString, escape]
    intro e f g h cs' hr hcs'
    exact hpair ⟨e, f, g, h, cs', hr, hcs'⟩

/-- The escapes of two halves that belong together are read as one. -/
lemma scanString_pair {a b c d e f g h : Char} {high low : Nat}
    (first : hex4? a b c d = some high) (isHigh : IsHighHalf high)
    (second : hex4? e f g h = some low) (isLow : IsLowHalf low) {cs : List Char}
    (some : cs ≠ []) (start pos : Nat) (acc : List Nat) :
    scanString start ('\\' :: 'u' :: a :: b :: c :: d :: '\\' :: 'u' :: e :: f :: g :: h :: cs)
        pos acc =
      scanString start cs (pos + 12) (joined high low :: acc) := by
  rw [scanString_twoUnits, first, second]
  exact if_pos ⟨isHigh.1, isHigh.2, isLow.1, isLow.2, some⟩

/-- A printable character that is neither a quote nor a backslash stands for itself. -/
lemma scanString_cons {c : Char} (hquote : c ≠ '"') (hback : c ≠ '\\') (h : 32 ≤ c.toNat)
    (cs : List Char) (start pos : Nat) (acc : List Nat) :
    scanString start (c :: cs) pos acc = scanString start cs (pos + 1) (c.toNat :: acc) := by
  have hc : ¬ c.toNat < 32 := by omega
  rw [scanString, if_neg hc]
  all_goals simp_all

/-- The code points that have an escape of one letter. -/
lemma scanString_simpleEscape {c : Char} {n : Nat} (hc : simpleEscape? c = some n)
    (cs : List Char) (start pos : Nat) (acc : List Nat) :
    scanString start ('\\' :: c :: cs) pos acc = scanString start cs (pos + 2) (n :: acc) := by
  unfold simpleEscape? at hc
  -- Each of the letters is a case of its own in the reader too.
  split at hc <;> cases hc <;> rfl

/-- A quote behind a string adds no escape to it. -/
lemma startsLow_of_append {points : List Nat} {cs rest : List Char} (body : StringBody points cs)
    (h : StartsLow (cs ++ '"' :: rest)) : StartsLow cs := by
  obtain ⟨a, b, c, d, tail, low, htext, hlow, isLow⟩ := h
  cases body with
  | nil => cases htext
  | plain quote backslash => exact absurd (List.cons.inj htext).1 backslash
  | letter escape =>
    obtain ⟨-, htext⟩ := List.cons.inj htext
    obtain ⟨rfl, -⟩ := List.cons.inj htext
    cases escape
  | unit =>
    simp only [List.cons_append, List.cons.injEq, true_and] at htext
    obtain ⟨rfl, rfl, rfl, rfl, -⟩ := htext
    exact ⟨_, _, _, _, _, low, rfl, hlow, isLow⟩
  | pair =>
    simp only [List.cons_append, List.cons.injEq, true_and] at htext
    obtain ⟨rfl, rfl, rfl, rfl, -⟩ := htext
    exact ⟨_, _, _, _, _, low, rfl, hlow, isLow⟩

/-- **A string is read up to its closing quote.** -/
lemma scanString_body {points : List Nat} {cs : List Char} (body : StringBody points cs)
    (rest : List Char) (start pos : Nat) (acc : List Nat) :
    scanString start (cs ++ '"' :: rest) pos acc =
      .done (acc.reverse ++ points) rest (pos + cs.length + 1) := by
  induction body generalizing pos acc with
  | nil =>
    show StringScan.done acc.reverse rest (pos + 1) = _
    simp
  | plain quote backslash control _ ih =>
    rw [List.cons_append, scanString_cons quote backslash control, ih]
    simp
    omega
  | letter escape _ ih =>
    rw [List.cons_append, List.cons_append, scanString_simpleEscape escape, ih]
    simp
    omega
  | unit escape alone body ih =>
    have halone : IsHighHalf _ → ¬ StartsLow (_ ++ '"' :: rest) :=
      fun high hlow => alone high (startsLow_of_append body hlow)
    simp only [List.cons_append]
    rw [scanString_unit escape halone (by simp), ih]
    simp
    omega
  | pair first isHigh second isLow _ ih =>
    simp only [List.cons_append]
    rw [scanString_pair first isHigh second isLow (by simp), ih]
    simp
    omega

/-! ## Numbers -/

/-- A text in which no number goes on: nothing follows, or a blank, a comma or the end of a list or
an object. -/
def Ends (rest : List Char) : Prop :=
  ∀ c ∈ rest.head?, isSpace c = true ∨ c = ',' ∨ c = ']' ∨ c = '\x7d'

lemma ends_nil : Ends [] := by simp [Ends]

lemma ends_cons {c : Char} (h : isSpace c = true ∨ c = ',' ∨ c = ']' ∨ c = '\x7d')
    (cs : List Char) : Ends (c :: cs) := by
  rintro _ ⟨⟩
  exact h

lemma ends_blanks (blanks : Blanks) {rest : List Char} (h : Ends rest) :
    Ends (blanks.chars ++ rest) := by
  cases hchars : blanks.chars with
  | nil => exact h
  | cons c cs => exact ends_cons (.inl (blanks.blank c (by simp [hchars]))) _

/-- A text that does not start with a digit. -/
def NoDigit (rest : List Char) : Prop :=
  ∀ c ∈ rest.head?, Text.isAsciiDigit c = false

lemma noDigit_cons {c : Char} (h : Text.isAsciiDigit c = false) (cs : List Char) :
    NoDigit (c :: cs) := by
  rintro _ ⟨⟩
  exact h

/-- Where a number ends there is no digit, no point and no exponent mark. -/
lemma ne_of_ends {rest : List Char} (h : Ends rest) {c : Char} (hc : c ∈ rest.head?) :
    Text.isAsciiDigit c = false ∧ c ≠ '.' ∧ c ≠ 'e' ∧ c ≠ 'E' := by
  have hcases := h c hc
  simp only [isSpace, Bool.or_eq_true, beq_iff_eq] at hcases
  rcases hcases with (((rfl | rfl) | rfl) | rfl) | rfl | rfl | rfl <;> decide

lemma takeWhile_digits {ds rest : List Char} (hds : ∀ c ∈ ds, Text.isAsciiDigit c = true)
    (hrest : NoDigit rest) : (ds ++ rest).takeWhile Text.isAsciiDigit = ds := by
  rw [List.takeWhile_append_of_pos hds]
  cases rest with
  | nil => simp
  | cons c cs =>
    rw [List.takeWhile_cons_of_neg (by simp [hrest c rfl]), List.append_nil]

/-- An exponent is read to its last digit. -/
lemma exponentPart?_exponent (e : Exponent) {rest : List Char} (hrest : NoDigit rest) :
    exponentPart? (e.written ++ rest) = some (e.written.length, e.value) := by
  obtain ⟨mark, sign, digits, isMark, isDigit, some⟩ := e
  have hmark : (mark == 'e' || mark == 'E') = true := by
    rcases isMark with h | h <;> rw [h] <;> rfl
  have htake := takeWhile_digits isDigit hrest
  have hsome : digits.isEmpty = false := by simpa using some
  simp only [Exponent.written, Exponent.value, List.cons_append, exponentPart?, hmark, if_true]
  cases sign with
  | plus =>
    simp [Sign.written, htake, hsome]
    omega
  | minus =>
    simp [Sign.written, htake, hsome]
    omega
  | none =>
    obtain ⟨d, ds, rfl⟩ := List.exists_cons_of_ne_nil some
    have hd := isDigit d (List.mem_cons_self ..)
    have hplus : d ≠ '+' := by
      rintro rfl
      cases hd
    have hminus : d ≠ '-' := by
      rintro rfl
      cases hd
    simp only [List.cons_append] at htake
    simp [Sign.written, htake, hplus, hminus]
    omega

namespace Numeral

variable (n : Numeral) {rest : List Char}

/-- The parts of a number as the scanner notes them. -/
def parts : NumberParts :=
  ⟨n.negative, n.whole, n.fraction, (n.exponent.map Exponent.value).getD 0, n.isInteger⟩

lemma wholePart_whole (hrest : NoDigit rest) : wholePart (n.whole ++ rest) = n.whole := by
  have htake := takeWhile_digits n.wholeDigit hrest
  have hzero := n.noZero
  obtain ⟨d, ds, hwhole⟩ := List.exists_cons_of_ne_nil n.wholeSome
  rw [hwhole] at htake hzero ⊢
  rw [wholePart.eq_def]
  split
  · rename_i heq
    obtain ⟨rfl, -⟩ := List.cons.inj heq
    exact (hzero rfl).symm
  · exact htake

lemma noDigit_exponentWritten (hrest : Ends rest) : NoDigit (n.exponentWritten ++ rest) := by
  unfold exponentWritten
  cases n.exponent with
  | none => exact fun c hc => (ne_of_ends hrest hc).1
  | some e =>
    refine noDigit_cons ?_ _
    rcases e.isMark with hmark | hmark <;> rw [hmark] <;> rfl

lemma noDigit_fractionWritten (hrest : Ends rest) :
    NoDigit (n.fractionWritten ++ (n.exponentWritten ++ rest)) := by
  unfold fractionWritten
  split
  · exact noDigit_exponentWritten n hrest
  · exact noDigit_cons rfl _

lemma fractionPart_written (hrest : Ends rest) :
    fractionPart (n.fractionWritten ++ (n.exponentWritten ++ rest)) = n.fraction := by
  unfold fractionWritten
  split
  · rename_i hnone
    rw [hnone, List.nil_append]
    unfold fractionPart
    split
    · rename_i cs heq
      unfold exponentWritten at heq
      cases hexponent : n.exponent with
      | none =>
        rw [hexponent] at heq
        have hhead : '.' ∈ rest.head? := by
          rw [show rest = '.' :: cs from heq]
          rfl
        exact absurd rfl (ne_of_ends hrest hhead).2.1
      | some e =>
        rw [hexponent] at heq
        have hmark : e.mark = '.' := (List.cons.inj heq).1
        rcases e.isMark with h | h <;> rw [h] at hmark <;> cases hmark
    · rfl
  · exact takeWhile_digits n.fractionDigit (noDigit_exponentWritten n hrest)

lemma exponentPart?_written (hrest : Ends rest) :
    exponentPart? (n.exponentWritten ++ rest) =
      n.exponent.map fun e => (e.written.length, e.value) := by
  unfold exponentWritten
  cases n.exponent with
  | none =>
    show exponentPart? rest = none
    cases rest with
    | nil => rfl
    | cons c cs =>
      obtain ⟨-, -, hlower, hupper⟩ := ne_of_ends hrest (c := c) rfl
      simp [exponentPart?, hlower, hupper]
  | some e =>
    exact exponentPart?_exponent e fun c hc => (ne_of_ends hrest hc).1

lemma exists_unsigned_eq_cons :
    ∃ d ds, n.unsigned = d :: ds ∧ Text.isAsciiDigit d = true := by
  obtain ⟨d, ds, hwhole⟩ := List.exists_cons_of_ne_nil n.wholeSome
  refine ⟨d, ds ++ (n.fractionWritten ++ n.exponentWritten), ?_, n.wholeDigit d (by simp [hwhole])⟩
  rw [unsigned, hwhole, List.cons_append]

/-- The sign of a number is told by its first character. -/
lemma sign_written {negative : Bool} {signs : Nat} {digits : List Char}
    (h : (match n.written ++ rest with
      | '-' :: cs => (true, 1, cs)
      | cs => (false, 0, cs)) = (negative, signs, digits)) :
    negative = n.negative ∧ digits = n.unsigned ++ rest ∧
      signs + n.unsigned.length = n.written.length := by
  unfold written at h ⊢
  cases hnegative : n.negative with
  | true =>
    rw [hnegative] at h
    cases h
    exact ⟨rfl, rfl, Nat.add_comm _ _⟩
  | false =>
    rw [hnegative] at h
    obtain ⟨d, ds, hunsigned, hd⟩ := n.exists_unsigned_eq_cons
    simp only [Bool.false_eq_true, if_false] at h ⊢
    split at h
    · rename_i heq
      rw [hunsigned] at heq
      obtain ⟨rfl, -⟩ := List.cons.inj heq
      cases hd
    · cases h
      exact ⟨rfl, rfl, Nat.zero_add _⟩

/-- **A number is read to its last character.** -/
lemma number?_written (hrest : Ends rest) :
    number? (n.written ++ rest) = some (n.parts, n.written.length) := by
  have hunsigned : n.unsigned ++ rest =
      n.whole ++ (n.fractionWritten ++ (n.exponentWritten ++ rest)) := by
    simp [unsigned, List.append_assoc]
  have hwhole := n.wholePart_whole (n.noDigit_fractionWritten hrest)
  have hsome : n.whole.isEmpty = false := by simpa using n.wholeSome
  have hfraction := n.fractionPart_written hrest
  have hexponent := n.exponentPart?_written hrest
  have hwidth : (if n.fraction.isEmpty = true then 0 else n.fraction.length + 1) =
      n.fractionWritten.length := by
    unfold fractionWritten
    split <;> simp_all
  have hparts : ∀ signs : Nat, signs + n.whole.length + n.fractionWritten.length +
      ((n.exponent.map fun e => (e.written.length, e.value)).map Prod.fst).getD 0 =
        signs + n.unsigned.length := by
    intro signs
    cases hexponent : n.exponent <;>
      simp [unsigned, exponentWritten, hexponent, Nat.add_assoc]
  unfold number?
  split
  rename_i hsign
  obtain ⟨rfl, rfl, hlength⟩ := n.sign_written hsign
  rw [hunsigned]
  simp only [hwhole, hsome, List.drop_left, hfraction, hwidth, hexponent, hparts, hlength]
  simp [parts, isInteger, Function.comp_def]

/-- A number starts with its sign or with a digit. -/
lemma exists_written_eq_cons :
    ∃ c cs, n.written = c :: cs ∧ (c = '-' ∧ cs = n.unsigned ∨ Text.isAsciiDigit c = true) := by
  unfold written
  split
  · exact ⟨_, _, rfl, .inl ⟨rfl, rfl⟩⟩
  · obtain ⟨d, ds, hunsigned, hd⟩ := n.exists_unsigned_eq_cons
    exact ⟨d, ds, hunsigned, .inr hd⟩

/-- No constant is spelled like a number. -/
lemma find?_constants_written (rest : List Char) :
    constants.find? (fun k => k.1.isPrefixOf (n.written ++ rest)) = none := by
  have hne : ∀ {d : Char}, Text.isAsciiDigit d = true →
      ∀ c, Text.isAsciiDigit c = false → c ≠ d := by
    rintro d hd c hc rfl
    rw [hc] at hd
    cases hd
  obtain ⟨c, cs, hwritten, ⟨rfl, rfl⟩ | hc⟩ := n.exists_written_eq_cons
  · obtain ⟨d, ds, hunsigned, hd⟩ := n.exists_unsigned_eq_cons
    rw [hwritten, hunsigned]
    simp [constants, List.isPrefixOf, hne hd 'I' rfl]
  · rw [hwritten]
    simp [constants, List.isPrefixOf, hne hc 'n' rfl, hne hc 't' rfl, hne hc 'f' rfl,
      hne hc 'N' rfl, hne hc 'I' rfl, hne hc '-' rfl]

/-- The token a number makes. -/
lemma scalar?_written (hrest : Ends rest) :
    scalar? (n.written ++ rest) = some (n.parts.token, n.written.length) := by
  rw [scalar?, n.find?_constants_written, n.number?_written hrest]
  rfl

/-- A number is a value, unless it is an integer with too many digits. -/
lemma token_parts (h : n.isInteger = true → n.whole.length ≤ Decimal.digitLimit) :
    n.parts.token = .scalar n.value := by
  unfold NumberParts.token value
  cases hinteger : n.isInteger with
  | true =>
    have hshort : ¬ Decimal.digitLimit < n.whole.length := Nat.not_lt.2 (h hinteger)
    simp only [parts, hinteger, if_true, if_neg hshort]
  | false => simp only [parts, hinteger, Bool.false_eq_true, if_false]

lemma token_parts_of_long (integer : n.isInteger = true)
    (long : Decimal.digitLimit < n.whole.length) :
    n.parts.token = .longInteger n.whole.length := by
  simp only [NumberParts.token, parts, integer, if_true, if_pos long]

/-- The first character of a number is no blank, no mark and no quote. -/
lemma head_written {c : Char} {cs : List Char} (h : n.written = c :: cs) :
    isSpace c = false ∧ mark? c = none ∧ c ≠ '"' := by
  have hc : c = '-' ∨ Text.isAsciiDigit c = true := by
    obtain ⟨_, _, hwritten, hhead⟩ := n.exists_written_eq_cons
    rw [h] at hwritten
    cases hwritten
    exact hhead.imp And.left id
  rcases hc with rfl | hc
  · decide
  · simp only [Text.isAsciiDigit, Bool.and_eq_true, decide_eq_true_eq] at hc
    obtain ⟨hlow, hhigh⟩ := hc
    rw [← Char.ofNat_toNat c]
    interval_cases c.toNat <;> decide

end Numeral

/-! ## Texts read from a stage on -/

/-- The first character of a text decides how its first token is cut off. -/
lemma scan_cons (fuel : Nat) (c : Char) (cs : List Char) (pos : Nat) (acc : List (Token × Nat)) :
    scan (fuel + 1) (c :: cs) pos acc =
      if isSpace c then scan fuel cs (pos + 1) acc
      else
        match mark? c with
        | some t => scan fuel cs (pos + 1) ((t, pos) :: acc)
        | none =>
          if c == '"' then
            match scanString pos cs (pos + 1) [] with
            | .done points rest pos' =>
              scan fuel rest pos' ((.string (.ofPoints points), pos) :: acc)
            | .failed complaint offset =>
              (((.brokenString complaint offset, pos) :: acc).reverse, pos)
          else
            match scalar? (c :: cs) with
            | some (.longInteger n, _) => (((.longInteger n, pos) :: acc).reverse, pos)
            | some (t, width) =>
              scan fuel ((c :: cs).drop width) (pos + width) ((t, pos) :: acc)
            | none => (((.stray, pos) :: acc).reverse, pos) := rfl

/-- The tokens of a text and their end, from a place on. -/
lemma scan_acc (fuel : Nat) (cs : List Char) (pos : Nat) (acc : List (Token × Nat)) :
    scan fuel cs pos acc = (acc.reverse ++ (scan fuel cs pos []).1, (scan fuel cs pos []).2) := by
  induction fuel generalizing cs pos acc with
  | zero => simp [scan]
  | succ fuel ih =>
    cases cs with
    | nil => simp [scan]
    | cons c cs =>
      rw [scan_cons, scan_cons]
      split
      · exact ih cs (pos + 1) acc
      · split
        · rename_i t _
          rw [ih cs (pos + 1) ((t, pos) :: acc), ih cs (pos + 1) [(t, pos)]]
          simp
        · split
          · split
            · rename_i points rest pos' _
              rw [ih rest pos' ((.string (.ofPoints points), pos) :: acc),
                ih rest pos' [(.string (.ofPoints points), pos)]]
              simp
            · simp
          · split
            · simp
            · rename_i t width _ _
              rw [ih ((c :: cs).drop width) (pos + width) ((t, pos) :: acc),
                ih ((c :: cs).drop width) (pos + width) [(t, pos)]]
              simp
            · simp

/-- What is left behind a string is the end of the text. -/
lemma isSuffix_of_scanString {start : Nat} {cs : List Char} {pos : Nat} {acc points : List Nat}
    {rest : List Char} {finish : Nat}
    (h : scanString start cs pos acc = .done points rest finish) : rest <:+ cs := by
  have hdrop : ∀ (n : Nat) {cs : List Char}, rest <:+ cs.drop n → rest <:+ cs :=
    fun n cs h => h.trans (List.drop_suffix n cs)
  fun_induction scanString start cs pos acc
  case case2 =>
    cases h
    exact List.suffix_cons _ _
  case case3 ih => exact hdrop 12 (ih h)
  case case4 ih | case5 ih | case7 ih => exact hdrop 6 (ih h)
  case case10 ih => exact hdrop 2 (ih h)
  case case14 ih => exact hdrop 1 (ih h)
  all_goals cases h

/-- What holds of every token that can be cut off holds of the tokens of a text. -/
lemma forall_mem_scan {text : List Char} {P : Token → Prop}
    (mark : ∀ {c t}, mark? c = some t → P t) (string : ∀ t, P (.string t))
    (broken : ∀ c offset, P (.brokenString c offset))
    (scalar : ∀ {rest t width}, rest <:+ text → scalar? rest = some (t, width) → P t)
    (stray : P .stray) {fuel : Nat} {cs : List Char} (hcs : cs <:+ text) {pos : Nat}
    {acc : List (Token × Nat)} (hacc : ∀ e ∈ acc, P e.1) :
    ∀ e ∈ (scan fuel cs pos acc).1, P e.1 := by
  have hlast : ∀ {acc : List (Token × Nat)}, (∀ e ∈ acc, P e.1) → ∀ e ∈ acc.reverse, P e.1 :=
    fun h e he => h e (List.mem_reverse.1 he)
  have hcons : ∀ {t : Token} {acc : List (Token × Nat)} (pos : Nat), P t →
      (∀ e ∈ acc, P e.1) → ∀ e ∈ (t, pos) :: acc, P e.1 :=
    fun _ ht h => List.forall_mem_cons.2 ⟨ht, h⟩
  induction fuel generalizing cs pos acc with
  | zero => exact hlast hacc
  | succ fuel ih =>
    cases cs with
    | nil => exact hlast hacc
    | cons c cs =>
      have htail : cs <:+ text := (List.suffix_cons c cs).trans hcs
      rw [scan_cons]
      split
      · exact ih htail hacc
      · split
        · rename_i t hmark
          exact ih htail (hcons pos (mark hmark) hacc)
        · split
          · split
            · rename_i hstring
              exact ih ((isSuffix_of_scanString hstring).trans htail)
                (hcons pos (string _) hacc)
            · exact hlast (hcons pos (broken _ _) hacc)
          · split
            · rename_i hscalar
              exact hlast (hcons pos (scalar hcs hscalar) hacc)
            · rename_i t width _ hscalar
              exact ih ((List.drop_suffix width _).trans hcs) (hcons pos (scalar hcs hscalar) hacc)
            · exact hlast (hcons pos stray hacc)

/-- What the machine makes of tokens and the offset at which they end. -/
def Stage.run [Platform] (s : Stage) (ts : List (Token × Nat) × Nat) : Except Objection Value :=
  match s.feedAll ts.1 with
  | .ok s => s.finish ts.2
  | .error e => .error e

/-- From a stage on, a text is answered with a value or an objection, wherever it stands. -/
def Stage.Reads [Platform] (s : Stage) (cs : List Char) (r : Except Objection Value) : Prop :=
  ∀ fuel pos, cs.length < fuel → s.run (scan fuel cs pos []) = r

/-- A token that the machine takes comes before what is made of the rest. -/
lemma Stage.run_scan_token [Platform] {s s' : Stage} {t : Token} {pos : Nat}
    (h : s.feed t pos = .ok s') (fuel : Nat) (cs : List Char) (pos' : Nat) :
    s.run (scan fuel cs pos' [(t, pos)]) = s'.run (scan fuel cs pos' []) := by
  rw [scan_acc, List.reverse_singleton, List.singleton_append, run, feedAll, h]
  rfl

namespace Stage.Reads

variable {s s' : Stage} {cs : List Char} {r : Except Objection Value}

/-- The end of the text. -/
protected lemma nil [Platform] {v : Value} : Reads ⟨[], .nothing v⟩ [] (.ok v) := by
  intro fuel pos hfuel
  obtain ⟨fuel, rfl⟩ := Nat.exists_eq_add_of_lt hfuel
  rfl

protected lemma space [Platform] {c : Char} (hc : isSpace c = true) (h : s.Reads cs r) :
    s.Reads (c :: cs) r := by
  intro fuel pos hfuel
  obtain ⟨fuel, rfl⟩ := Nat.exists_eq_succ_of_ne_zero (Nat.ne_of_gt (Nat.zero_lt_of_lt hfuel))
  rw [scan_cons, if_pos hc]
  exact h fuel (pos + 1) (Nat.lt_of_succ_lt_succ hfuel)

protected lemma mark [Platform] {c : Char} {t : Token} (hc : isSpace c = false)
    (ht : mark? c = some t)
    (hfeed : ∀ pos, s.feed t pos = .ok s') (h : s'.Reads cs r) : s.Reads (c :: cs) r := by
  intro fuel pos hfuel
  obtain ⟨fuel, rfl⟩ := Nat.exists_eq_succ_of_ne_zero (Nat.ne_of_gt (Nat.zero_lt_of_lt hfuel))
  rw [scan_cons, if_neg (by simp [hc]), ht]
  rw [Stage.run_scan_token (hfeed pos)]
  exact h fuel (pos + 1) (Nat.lt_of_succ_lt_succ hfuel)

/-- A string. -/
protected lemma string [Platform] {points : List Nat} {name : List Char}
    (body : StringBody points name)
    (hfeed : ∀ pos, s.feed (.string (.ofPoints points)) pos = .ok s') (h : s'.Reads cs r) :
    s.Reads ('"' :: (name ++ '"' :: cs)) r := by
  intro fuel pos hfuel
  obtain ⟨fuel, rfl⟩ := Nat.exists_eq_succ_of_ne_zero (Nat.ne_of_gt (Nat.zero_lt_of_lt hfuel))
  have hscan := scanString_body body cs pos (pos + 1) []
  simp only [List.length_cons, List.length_append] at hfuel
  rw [scan_cons]
  simp only [show isSpace '"' = false from rfl, show mark? '"' = none from rfl, hscan]
  simp only [List.reverse_nil, List.nil_append, Bool.false_eq_true, if_false, beq_self_eq_true,
    if_true]
  rw [Stage.run_scan_token (hfeed pos)]
  exact h fuel _ (by omega)

/-- A constant or a number. -/
protected lemma scalar [Platform] {c : Char} {word : List Char} {w : Value}
    (hspace : isSpace c = false) (hmark : mark? c = none) (hquote : c ≠ '"')
    (hword : scalar? (c :: word ++ cs) = some (.scalar w, word.length + 1))
    (hfeed : ∀ pos, s.feed (.scalar w) pos = .ok s') (h : s'.Reads cs r) :
    s.Reads (c :: word ++ cs) r := by
  intro fuel pos hfuel
  obtain ⟨fuel, rfl⟩ := Nat.exists_eq_succ_of_ne_zero (Nat.ne_of_gt (Nat.zero_lt_of_lt hfuel))
  simp only [List.length_append, List.length_cons] at hfuel
  have hdrop : (c :: word ++ cs).drop (word.length + 1) = cs := by simp
  rw [List.cons_append] at hword hdrop ⊢
  rw [scan_cons]
  simp only [hspace, hmark, beq_eq_false_iff_ne.2 hquote, hword, hdrop, Bool.false_eq_true,
    if_false]
  rw [Stage.run_scan_token (hfeed pos)]
  exact h fuel _ (by omega)

/-- A number. -/
protected lemma number [Platform] (n : Numeral)
    (short : n.isInteger = true → n.whole.length ≤ Decimal.digitLimit) (hcs : Ends cs)
    (hfeed : ∀ pos, s.feed (.scalar n.value) pos = .ok s') (h : s'.Reads cs r) :
    s.Reads (n.written ++ cs) r := by
  have hword := n.scalar?_written hcs
  rw [n.token_parts short] at hword
  obtain ⟨c, word, hc, -⟩ := n.exists_written_eq_cons
  obtain ⟨hspace, hmark, hquote⟩ := n.head_written hc
  rw [hc] at hword ⊢
  exact Reads.scalar hspace hmark hquote hword hfeed h

/-- A number with too many digits. -/
protected lemma longNumber [Platform] (n : Numeral) (integer : n.isInteger = true)
    (long : Decimal.digitLimit < n.whole.length) (hcs : Ends cs) {o : Objection}
    (hfeed : ∀ pos, s.feed (.longInteger n.whole.length) pos = .error o) :
    s.Reads (n.written ++ cs) (.error o) := by
  intro fuel pos hfuel
  obtain ⟨fuel, rfl⟩ := Nat.exists_eq_succ_of_ne_zero (Nat.ne_of_gt (Nat.zero_lt_of_lt hfuel))
  have hword := n.scalar?_written hcs
  rw [n.token_parts_of_long integer long] at hword
  obtain ⟨c, word, hc, -⟩ := n.exists_written_eq_cons
  obtain ⟨hspace, hmark, hquote⟩ := n.head_written hc
  rw [hc, List.cons_append] at hword ⊢
  rw [scan_cons]
  simp only [hspace, hmark, beq_eq_false_iff_ne.2 hquote, hword, Bool.false_eq_true, if_false]
  rw [List.reverse_singleton, run, feedAll, hfeed]

/-- The blanks before a token are passed over. -/
protected lemma blanks [Platform] (blanks : Blanks) (h : s.Reads cs r) :
    s.Reads (blanks.chars ++ cs) r := by
  obtain ⟨chars, blank⟩ := blanks
  induction chars with
  | nil => exact h
  | cons c chars ih =>
    rw [List.forall_mem_cons] at blank
    exact (ih blank.2).space blank.1

end Stage.Reads

end ElmOnSave.Json
