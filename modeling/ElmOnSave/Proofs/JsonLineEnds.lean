import ElmOnSave.Proofs.JsonReading
import ElmOnSave.Proofs.LineEnds

/-!
# JSON texts and the ends of their lines

A file is read with LF at the end of every line, a line of a stream as it is.  For a text on one
line the difference is that each CR of it becomes LF in a file (`Text.universalNewlines_eq_map`),
and to a JSON text this is no difference: both are blanks between tokens, and neither may stand in a
string, in a number or in a constant.

`tokens_asLineFeed` says so of every text.  The reader looks at characters in two ways, by tests
that do not tell CR from LF (`Text.apply_asLineFeed`) and by comparison with characters that are
neither (`Text.asLineFeed_eq_iff`).  Its parts are taken one by one, strings first, then the parts
of a number.  Since no character comes or goes, all offsets stay as they are.
-/

namespace ElmOnSave

namespace Json

open Text

/-! ## Strings -/

section Shapes

variable (start pos : Nat) (acc : List Nat)

/-- An escape by number that is not followed by another one. -/
lemma scanString_oneUnit {r : Char} {cs : List Char}
    (alone : ∀ e f g h cs', r = '\\' → cs = 'u' :: e :: f :: g :: h :: cs' → False)
    (a b c d : Char) :
    scanString start ('\\' :: 'u' :: a :: b :: c :: d :: r :: cs) pos acc =
      match hex4? a b c d with
      | some n => scanString start (r :: cs) (pos + 6) (n :: acc)
      | none => .failed .invalidUnicodeEscape (pos + 1) := by
  rw [scanString]
  all_goals first | rfl | exact alone

/-- An escape by number that does not fit into the text. -/
lemma scanString_cutUnit {tail : List Char} (h : tail.length < 5) :
    scanString start ('\\' :: 'u' :: tail) pos acc = .failed .invalidUnicodeEscape (pos + 1) := by
  rw [scanString]
  · rintro _ _ _ _ _ _ _ _ _ rfl
    simp only [List.length_cons] at h
    omega
  · rintro _ _ _ _ _ _ rfl
    simp only [List.length_cons] at h
    omega

/-- An escape of one letter. -/
lemma scanString_letter {c : Char} (hc : c ≠ 'u') (cs : List Char) :
    scanString start ('\\' :: c :: cs) pos acc =
      match simpleEscape? c with
      | some n => scanString start cs (pos + 2) (n :: acc)
      | none => .failed .invalidEscape pos := by
  rw [scanString]
  all_goals first | rfl | simp [hc]

/-- A control character ends a string. -/
lemma scanString_control {c : Char} (hc : c.toNat < 32) (cs : List Char) :
    scanString start (c :: cs) pos acc = .failed .controlCharacter pos := by
  have hne : ∀ d : Char, 32 ≤ d.toNat → c ≠ d := by
    rintro d hd rfl
    omega
  rw [scanString, if_pos hc]
  all_goals simp [hne '"' (by decide), hne '\\' (by decide)]

end Shapes

/-- What scanning a string gives, with the characters of the rest of the text changed. -/
def StringScan.mapRest (f : Char → Char) : StringScan → StringScan
  | .done points rest offset => .done points (rest.map f) offset
  | .failed complaint offset => .failed complaint offset

lemma hex4?_asLineFeed (a b c d : Char) :
    hex4? (asLineFeed a) (asLineFeed b) (asLineFeed c) (asLineFeed d) = hex4? a b c d := by
  simp only [hex4?, apply_asLineFeed hexValue? rfl]

/-- What is no second escape does not become one. -/
lemma alone_asLineFeed {r : Char} {cs : List Char}
    (alone : ∀ e f g h cs', r = '\\' → cs = 'u' :: e :: f :: g :: h :: cs' → False) (e f g h : Char)
    (cs' : List Char) (hr : asLineFeed r = '\\')
    (hcs : cs.map asLineFeed = 'u' :: e :: f :: g :: h :: cs') : False := by
  simp only [List.map_eq_cons_iff] at hcs
  obtain ⟨u, _, rfl, hu, _, _, rfl, -, _, _, rfl, -, _, _, rfl, -, _, _, rfl, -, -⟩ := hcs
  obtain rfl : u = 'u' := (asLineFeed_eq_iff rfl).1 hu
  exact alone _ _ _ _ _ ((asLineFeed_eq_iff rfl).1 hr) rfl

/-- A string is scanned in the same way whether a control character in it is CR or LF. -/
lemma scanString_asLineFeed (start : Nat) (cs : List Char) (pos : Nat) (acc : List Nat) :
    scanString start (cs.map asLineFeed) pos acc =
      (scanString start cs pos acc).mapRest asLineFeed := by
  have hback : asLineFeed '\\' = '\\' := rfl
  have hu : asLineFeed 'u' = 'u' := rfl
  fun_induction scanString start cs pos acc with
  | case1 => rfl
  | case2 => rfl
  | case3 pos acc a b c d e f g h cs high low hlow hhigh hpair ih =>
    simp only [List.map_cons, hback, hu]
    rw [scanString_twoUnits, hex4?_asLineFeed, hex4?_asLineFeed, hlow, hhigh]
    simpa [hpair] using ih
  | case4 pos acc a b c d e f g h cs high low hlow hhigh hpair ih =>
    simp only [List.map_cons, hback, hu] at ih ⊢
    rw [scanString_twoUnits, hex4?_asLineFeed, hex4?_asLineFeed, hlow, hhigh]
    simpa [hpair] using ih
  | case5 pos acc a b c d e f g h cs high hlow hhigh ih =>
    simp only [List.map_cons, hback, hu] at ih ⊢
    rw [scanString_twoUnits, hex4?_asLineFeed, hex4?_asLineFeed, hlow, hhigh]
    exact ih
  | case6 pos acc a b c d e f g h cs hhigh =>
    simp only [List.map_cons, hback, hu]
    rw [scanString_twoUnits, hex4?_asLineFeed, hex4?_asLineFeed, hhigh]
    rfl
  | case7 pos acc a b c d r cs alone n hhex ih =>
    simp only [List.map_cons, hback, hu] at ih ⊢
    rw [scanString_oneUnit _ _ _ (alone_asLineFeed alone), hex4?_asLineFeed, hhex]
    exact ih
  | case8 pos acc a b c d r cs alone hhex =>
    simp only [List.map_cons, hback, hu]
    rw [scanString_oneUnit _ _ _ (alone_asLineFeed alone), hex4?_asLineFeed, hhex]
    rfl
  | case9 tail pos acc hpair hunit =>
    have hshort : tail.length < 5 := by
      rcases tail with _ | ⟨a, _ | ⟨b, _ | ⟨c, _ | ⟨d, _ | ⟨r, cs⟩⟩⟩⟩⟩
      all_goals first | exact absurd rfl (hunit _ _ _ _ _ _) | simp
    simp only [List.map_cons, hback, hu]
    rw [scanString_cutUnit _ _ _ (by rwa [List.length_map])]
    rfl
  | case10 c cs pos acc _ _ hc n hletter ih =>
    have hc' : asLineFeed c ≠ 'u' := (asLineFeed_eq_iff rfl).not.2 hc
    simp only [List.map_cons, hback]
    rw [scanString_letter _ _ _ hc', apply_asLineFeed simpleEscape? rfl, hletter]
    exact ih
  | case11 c cs pos acc _ _ hc hletter =>
    have hc' : asLineFeed c ≠ 'u' := (asLineFeed_eq_iff rfl).not.2 hc
    simp only [List.map_cons, hback]
    rw [scanString_letter _ _ _ hc', apply_asLineFeed simpleEscape? rfl, hletter]
    rfl
  | case12 => rfl
  | case13 c cs pos acc _ _ _ _ _ _ hcontrol =>
    have hcontrol' : (asLineFeed c).toNat < 32 := by
      unfold asLineFeed
      split
      · decide
      · exact hcontrol
    rw [List.map_cons, scanString_control _ _ _ hcontrol']
    rfl
  | case14 c cs pos acc hquote _ _ _ hback' hlast hcontrol ih =>
    have hc : isLineEnd c = false := by
      rw [isLineEnd, Bool.or_eq_false_iff, beq_eq_false_iff_ne, beq_eq_false_iff_ne]
      constructor <;> rintro rfl <;> exact hcontrol (by decide)
    have hne : c ≠ '\\' := by
      rintro rfl
      cases cs with
      | nil => exact hlast rfl rfl
      | cons d cs => exact hback' d cs rfl rfl
    rw [List.map_cons, asLineFeed_of_not_isLineEnd hc, scanString_cons hquote hne (by omega)]
    exact ih

/-! ## Numbers and constants -/

/-- A longest run holds no CR and no LF if their class does not. -/
lemma takeWhile_asLineFeed {p : Char → Bool} (hp : ∀ c, isLineEnd c = true → p c = false)
    (cs : List Char) : (cs.map asLineFeed).takeWhile p = cs.takeWhile p := by
  induction cs with
  | nil => rfl
  | cons c cs ih =>
    have hpc : p (asLineFeed c) = p c := apply_asLineFeed p ((hp _ rfl).trans (hp _ rfl).symm) c
    rw [List.map_cons, List.takeWhile_cons, List.takeWhile_cons, hpc, ih]
    cases hc : p c with
    | false => rfl
    | true =>
      have hend : isLineEnd c = false := by
        rw [Bool.eq_false_iff]
        intro h
        rw [hp c h] at hc
        cases hc
      rw [asLineFeed_of_not_isLineEnd hend]

lemma digits_asLineFeed (cs : List Char) :
    (cs.map asLineFeed).takeWhile isAsciiDigit = cs.takeWhile isAsciiDigit := by
  refine takeWhile_asLineFeed (fun c hc => ?_) cs
  rw [isLineEnd, Bool.or_eq_true, beq_iff_eq, beq_iff_eq] at hc
  rcases hc with rfl | rfl <;> rfl

lemma wholePart_asLineFeed (cs : List Char) : wholePart (cs.map asLineFeed) = wholePart cs := by
  have hdigits := digits_asLineFeed cs
  cases cs with
  | nil => rfl
  | cons c cs =>
    by_cases hc : c = '0'
    · rw [hc]
      rfl
    · have hc' : asLineFeed c ≠ '0' := (asLineFeed_eq_iff rfl).not.2 hc
      rw [List.map_cons] at hdigits ⊢
      rwa [wholePart, wholePart]
      · exact fun _ h => hc (List.cons.inj h).1
      · exact fun _ h => hc' (List.cons.inj h).1

lemma fractionPart_asLineFeed (cs : List Char) :
    fractionPart (cs.map asLineFeed) = fractionPart cs := by
  cases cs with
  | nil => rfl
  | cons c cs =>
    by_cases hc : c = '.'
    · rw [hc]
      exact digits_asLineFeed cs
    · have hc' : asLineFeed c ≠ '.' := (asLineFeed_eq_iff rfl).not.2 hc
      rw [List.map_cons, fractionPart, fractionPart]
      · exact fun _ h => hc (List.cons.inj h).1
      · exact fun _ h => hc' (List.cons.inj h).1

lemma exponentPart?_asLineFeed (cs : List Char) :
    exponentPart? (cs.map asLineFeed) = exponentPart? cs := by
  cases cs with
  | nil => rfl
  | cons e cs =>
    have hmark : (asLineFeed e == 'e' || asLineFeed e == 'E') = (e == 'e' || e == 'E') :=
      apply_asLineFeed (fun e => e == 'e' || e == 'E') rfl e
    have hdigits := digits_asLineFeed cs
    unfold exponentPart?
    simp only [List.map_cons, hmark]
    cases cs with
    | nil => rfl
    | cons d ds =>
      by_cases hplus : d = '+'
      · subst hplus
        simp only [List.map_cons, show asLineFeed '+' = '+' from rfl, digits_asLineFeed]
      by_cases hminus : d = '-'
      · subst hminus
        simp only [List.map_cons, show asLineFeed '-' = '-' from rfl, digits_asLineFeed]
      have hplus' : asLineFeed d ≠ '+' := (asLineFeed_eq_iff rfl).not.2 hplus
      have hminus' : asLineFeed d ≠ '-' := (asLineFeed_eq_iff rfl).not.2 hminus
      rw [List.map_cons] at hdigits
      simp [hplus, hminus, hplus', hminus', hdigits]

/-- The sign of a number is neither CR nor LF. -/
lemma sign_asLineFeed {cs digits : List Char} {negative : Bool} {signs : Nat}
    (h : (match cs with
      | '-' :: cs => (true, 1, cs)
      | cs => (false, 0, cs)) = (negative, signs, digits)) :
    (match cs.map asLineFeed with
      | '-' :: cs => (true, 1, cs)
      | cs => (false, 0, cs)) = (negative, signs, digits.map asLineFeed) := by
  split at h
  · cases h
    rfl
  · rename_i hne
    cases h
    split
    · rename_i hmapped
      obtain ⟨c, ds, rfl, hc, rfl⟩ := List.map_eq_cons_iff.1 hmapped
      obtain rfl : c = '-' := (asLineFeed_eq_iff rfl).1 hc
      exact absurd rfl (hne ds)
    · rfl

lemma number?_asLineFeed (cs : List Char) : number? (cs.map asLineFeed) = number? cs := by
  unfold number?
  split
  rename_i hmapped
  split
  rename_i hsign
  cases (sign_asLineFeed hsign).symm.trans hmapped
  simp only [wholePart_asLineFeed, ← List.map_drop, fractionPart_asLineFeed,
    exponentPart?_asLineFeed]

lemma isPrefixOf_asLineFeed {word : List Char} (hword : ∀ c ∈ word, isLineEnd c = false)
    (cs : List Char) : word.isPrefixOf (cs.map asLineFeed) = word.isPrefixOf cs := by
  induction word generalizing cs with
  | nil => rfl
  | cons d word ih =>
    rw [List.forall_mem_cons] at hword
    cases cs with
    | nil => rfl
    | cons c cs =>
      have hd : (d == asLineFeed c) = (d == c) := by
        rw [Bool.eq_iff_iff, beq_iff_eq, beq_iff_eq, eq_comm, asLineFeed_eq_iff hword.1, eq_comm]
      rw [List.map_cons, List.isPrefixOf, List.isPrefixOf, hd, ih hword.2]

lemma scalar?_asLineFeed (cs : List Char) : scalar? (cs.map asLineFeed) = scalar? cs := by
  have hwords : ∀ k ∈ constants, ∀ c ∈ k.1, isLineEnd c = false := by simp [constants, isLineEnd]
  have hfind : constants.find? (fun k => k.1.isPrefixOf (cs.map asLineFeed)) =
      constants.find? fun k => k.1.isPrefixOf cs :=
    List.find?_congr fun k hk => isPrefixOf_asLineFeed (hwords k hk) cs
  rw [scalar?, scalar?, hfind, number?_asLineFeed]

/-! ## Texts -/

lemma scan_asLineFeed (fuel : Nat) (cs : List Char) (pos : Nat) (acc : List (Token × Nat)) :
    scan fuel (cs.map asLineFeed) pos acc = scan fuel cs pos acc := by
  induction fuel generalizing cs pos acc with
  | zero => rfl
  | succ fuel ih =>
    cases cs with
    | nil => rfl
    | cons c cs =>
      have hquote : (asLineFeed c == '"') = (c == '"') := apply_asLineFeed (· == '"') rfl c
      have hscalar : scalar? (asLineFeed c :: cs.map asLineFeed) = scalar? (c :: cs) :=
        scalar?_asLineFeed (c :: cs)
      have hdrop : ∀ width, (asLineFeed c :: cs.map asLineFeed).drop width =
          ((c :: cs).drop width).map asLineFeed :=
        fun width => (List.map_drop (l := c :: cs)).symm
      rw [List.map_cons, scan_cons, scan_cons, apply_asLineFeed isSpace rfl,
        apply_asLineFeed mark? rfl, hquote, scanString_asLineFeed, hscalar]
      simp only [ih, hdrop]
      cases scanString pos cs (pos + 1) [] <;> simp only [StringScan.mapRest, ih]

/-- **The tokens of a text and their offsets do not tell CR from LF.** -/
theorem tokens_asLineFeed (cs : List Char) : tokens (cs.map asLineFeed) = tokens cs := by
  rw [tokens, tokens, List.length_map, scan_asLineFeed]

/-- A text on one line has the same value as it stands and as the text of a file. -/
theorem read_universalNewlines_eq_ok_iff [Platform] {cs : List Char} (oneLine : '\n' ∉ cs)
    {v : Value} :
    Json.read (universalNewlines cs) = .ok v ↔ Json.read cs = .ok v := by
  have hnewlines : universalNewlines cs = cs.map asLineFeed :=
    universalNewlines_eq_map fun inside => oneLine (inside.subset (by simp))
  rw [read_eq_ok_iff, read_eq_ok_iff, hnewlines, readAt, readAt, tokens_asLineFeed]

end Json

end ElmOnSave
