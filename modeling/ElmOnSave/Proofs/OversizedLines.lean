import ElmOnSave.Proofs.LongNumbers
import ElmOnSave.Proofs.ShortNumbers

/-!
# Lines that are refused for their size

The JSON reader has two refusals that are no complaint about a place of the text: an integer with
too many digits, and lists and objects that are nested too deeply.  Here they are traced back to the
text.  Such an integer is a token of the text (`long_of_read`), and for a nesting too deep the text
holds more opening marks than may be open (`deep_of_read`), because a stage never has more open than
it has been fed.

Reading a line passes these refusals on, and nothing else goes past the complaints about the line:
`readLine_escapes_iff`.
-/

namespace ElmOnSave

namespace Json

/-! ## Opening marks -/

/-- A token that opens a list or an object. -/
def Token.opens : Token → Bool
  | .openArray => true
  | .openObject => true
  | _ => false

/-- The number of tokens that open a list or an object. -/
def openTokens (ts : List (Token × Nat)) : Nat :=
  ts.countP fun e => e.1.opens

/-- The number of opening marks of a text, those inside its strings included. -/
def openMarks (cs : List Char) : Nat :=
  cs.countP fun c => c == '[' || c == '\x7b'

lemma openMarks_le_of_suffix {cs rest : List Char} (h : rest <:+ cs) :
    openMarks rest ≤ openMarks cs :=
  h.sublist.countP_le

/-- A scalar opens nothing. -/
lemma opens_of_scalar? {cs : List Char} {t : Token} {width : Nat}
    (h : scalar? cs = some (t, width)) : t.opens = false := by
  unfold scalar? at h
  split at h
  · cases h
    rfl
  · obtain ⟨⟨n, width⟩, -, heq⟩ := Option.map_eq_some_iff.1 h
    cases heq
    unfold NumberParts.token
    split_ifs <;> rfl

lemma openTokens_cons (t : Token) (pos : Nat) (ts : List (Token × Nat)) :
    openTokens ((t, pos) :: ts) = openTokens ts + if t.opens then 1 else 0 := by
  simp [openTokens, List.countP_cons]

lemma openTokens_scan_cons (fuel : Nat) (cs : List Char) (pos : Nat) (t : Token) (offset : Nat) :
    openTokens (scan fuel cs pos [(t, offset)]).1 =
      openTokens (scan fuel cs pos []).1 + if t.opens then 1 else 0 := by
  rw [scan_acc, List.reverse_singleton, List.singleton_append, openTokens_cons]

/-- A mark that opens something is one of the two brackets. -/
lemma openMarks_cons_of_mark? {c : Char} {t : Token} (h : mark? c = some t) (cs : List Char) :
    openMarks (c :: cs) = openMarks cs + if t.opens then 1 else 0 := by
  rw [openMarks, List.countP_cons, ← openMarks]
  unfold mark? at h
  split at h <;> cases h <;> rfl

/-- Every token that opens something is a mark of the text. -/
lemma openTokens_scan_le (fuel : Nat) (cs : List Char) (pos : Nat) :
    openTokens (scan fuel cs pos []).1 ≤ openMarks cs := by
  induction fuel generalizing cs pos with
  | zero => exact Nat.zero_le _
  | succ fuel ih =>
    have hrest : ∀ {rest : List Char}, rest <:+ cs → ∀ pos,
        openTokens (scan fuel rest pos []).1 ≤ openMarks cs :=
      fun h pos => (ih _ pos).trans (openMarks_le_of_suffix h)
    have hlast : ∀ {t : Token}, t.opens = false → openTokens [(t, pos)] ≤ openMarks cs := by
      intro t ht
      rw [openTokens_cons, ht]
      exact Nat.zero_le _
    cases cs with
    | nil => exact Nat.zero_le _
    | cons c cs =>
      rw [scan_cons]
      split
      · exact hrest (List.suffix_cons c cs) _
      · split
        · rename_i t hmark
          rw [openTokens_scan_cons, openMarks_cons_of_mark? hmark]
          exact Nat.add_le_add_right (ih cs _) _
        · split
          · split
            · rename_i hstring
              rw [openTokens_scan_cons]
              exact hrest ((isSuffix_of_scanString hstring).trans (List.suffix_cons c cs)) _
            · exact hlast rfl
          · split
            · exact hlast rfl
            · rename_i t width _ hscalar
              rw [openTokens_scan_cons, opens_of_scalar? hscalar]
              exact hrest (List.drop_suffix width (c :: cs)) _
            · exact hlast rfl

/-! ## Stages -/

/-- A value that is complete opens nothing. -/
lemma length_deliver (v : Value) (fs : List Frame) : (deliver v fs).stack.length = fs.length := by
  cases fs with
  | nil => rfl
  | cons f fs => cases f <;> rfl

/-- What is open after a token was open before it or is opened by it. -/
lemma Takes.length_le [Platform] {fs : List Frame} {t : Token} {s : Stage} (h : Takes fs t s) :
    s.stack.length ≤ fs.length + if t.opens then 1 else 0 := by
  cases h with
  | string | scalar =>
    rw [length_deliver]
    exact Nat.le_add_right _ _
  | openArray | openObject => exact Nat.le_refl _
  | name | strayName | colon | nextItem | nextEntry => exact Nat.le_add_right _ _
  | closeNewArray | closeNewObject | closeArray | closeObject =>
    rw [length_deliver, List.length_cons]
    omega

lemma Stage.deep_of_feedAll [Platform] {s : Stage} {ts : List (Token × Nat)}
    (h : s.feedAll ts = .error .nestedTooDeep) :
    Platform.jsonNesting < s.stack.length + openTokens ts := by
  induction ts generalizing s with
  | nil => cases h
  | cons e ts ih =>
    obtain ⟨t, pos⟩ := e
    rw [feedAll] at h
    rw [openTokens_cons]
    split at h
    · rename_i s' hfeed
      have hrest := ih h
      have hlength := (Stage.takes_of_feed hfeed).length_le
      omega
    · rename_i hfeed
      cases h
      cases Stage.refuses_of_feed hfeed with
      | fullArray full | fullObject full =>
        simp only [Token.opens, if_true]
        omega

lemma Stage.long_of_feedAll [Platform] {s : Stage} {ts : List (Token × Nat)} {digits : Nat}
    (h : s.feedAll ts = .error (.integerTooLong digits)) :
    ∃ pos, (.longInteger digits, pos) ∈ ts := by
  induction ts generalizing s with
  | nil => cases h
  | cons e ts ih =>
    obtain ⟨t, pos⟩ := e
    rw [feedAll] at h
    split at h
    · obtain ⟨pos, hmem⟩ := ih h
      exact ⟨pos, List.mem_cons_of_mem _ hmem⟩
    · rename_i hfeed
      cases h
      cases Stage.refuses_of_feed hfeed
      exact ⟨pos, List.mem_cons_self ..⟩

/-! ## Long integers -/

/-- A run of digits in a text that is longer than is read. -/
structure LongRun (cs ds : List Char) : Prop where
  inside : ds <:+: cs
  digits : ∀ c ∈ ds, Text.isAsciiDigit c = true
  long : Decimal.digitLimit < ds.length

lemma wholePart_prefix (cs : List Char) :
    wholePart cs <+: cs ∧ ∀ c ∈ wholePart cs, Text.isAsciiDigit c = true := by
  unfold wholePart
  split
  · exact ⟨⟨_, rfl⟩, List.forall_mem_singleton.2 rfl⟩
  · exact ⟨List.takeWhile_prefix _, fun c hc => List.mem_takeWhile_imp hc⟩

lemma whole_infix_of_number? {cs : List Char} {n : NumberParts} {width : Nat}
    (h : number? cs = some (n, width)) :
    n.whole <:+: cs ∧ ∀ c ∈ n.whole, Text.isAsciiDigit c = true := by
  unfold number? at h
  split at h
  rename_i negative signs unsigned hsign
  have hsuffix : unsigned <:+ cs := by
    split at hsign
    · cases hsign
      exact List.suffix_cons _ _
    · cases hsign
      exact List.suffix_refl _
  dsimp only at h
  split at h
  · cases h
  · cases h
    obtain ⟨hfront, hdigits⟩ := wholePart_prefix unsigned
    exact ⟨hfront.isInfix.trans hsuffix.isInfix, hdigits⟩

lemma exists_longRun_of_scalar? {cs : List Char} {digits width : Nat}
    (h : scalar? cs = some (.longInteger digits, width)) :
    ∃ ds, LongRun cs ds ∧ ds.length = digits := by
  unfold scalar? at h
  split at h
  · cases h
  · obtain ⟨⟨n, width⟩, hnumber, heq⟩ := Option.map_eq_some_iff.1 h
    obtain ⟨hinside, hdigits⟩ := whole_infix_of_number? hnumber
    simp only [NumberParts.token, Prod.mk.injEq] at heq
    obtain ⟨htoken, -⟩ := heq
    split_ifs at htoken with hinteger hlong
    cases htoken
    exact ⟨n.whole, ⟨hinside, hdigits, hlong⟩, rfl⟩

/-- A long integer among the tokens is a run of digits in the text. -/
lemma exists_longRun_of_mem_tokens {cs : List Char} {digits pos : Nat}
    (h : (.longInteger digits, pos) ∈ (tokens cs).1) :
    ∃ ds, LongRun cs ds ∧ ds.length = digits := by
  let stands : Token → Prop := fun t =>
    ∀ n, t = .longInteger n → ∃ ds, LongRun cs ds ∧ ds.length = n
  have hmark : ∀ {c t}, mark? c = some t → stands t := by
    rintro c t hmark n rfl
    unfold mark? at hmark
    split at hmark <;> cases hmark
  have hscalar : ∀ {rest t width}, rest <:+ cs → scalar? rest = some (t, width) → stands t := by
    rintro rest t width hrest hscalar n rfl
    obtain ⟨ds, hrun, hlength⟩ := exists_longRun_of_scalar? hscalar
    exact ⟨ds, ⟨hrun.inside.trans hrest.isInfix, hrun.digits, hrun.long⟩, hlength⟩
  have hall : ∀ e ∈ (tokens cs).1, stands e.1 :=
    forall_mem_scan hmark (fun _ _ => nofun) (fun _ _ _ => nofun) hscalar (fun _ => nofun)
      (List.suffix_refl cs) (List.forall_mem_nil _)
  exact hall _ h digits rfl

/-! ## Texts -/

/-- A text is refused with a complaint about a place of it, or because a token is refused. -/
lemma exists_objection_of_read [Platform] {cs : List Char} {f : Fault} (h : read cs = .error f) :
    (∃ c place offset, f = .malformed c place offset) ∨
      ∃ o, (⟨[], .value⟩ : Stage).feedAll (tokens cs).1 = .error o ∧ o.fault cs = f := by
  have hfinish : ∀ {s : Stage} {offset : Nat} {o : Objection}, s.finish offset = .error o →
      ∃ c place offset, o.fault cs = .malformed c place offset := by
    intro s offset o h
    unfold Stage.finish at h
    split at h <;> cases h <;> exact ⟨_, _, _, rfl⟩
  unfold read at h
  split at h
  · cases h
    exact .inl ⟨_, _, _, rfl⟩
  · obtain ⟨o, hread, rfl⟩ := mapError_eq_error_iff.1 h
    simp only [readAt] at hread
    split at hread
    · exact .inl (hfinish hread)
    · rename_i hfeed
      cases hread
      exact .inr ⟨_, hfeed, rfl⟩

/-- **Where nesting is refused, the text opens more than may be open.** -/
theorem deep_of_read [Platform] {cs : List Char} (h : read cs = .error .nestedTooDeep) :
    Platform.jsonNesting < openMarks cs := by
  rcases exists_objection_of_read h with ⟨_, _, _, hf⟩ | ⟨o, hfeed, hf⟩
  · cases hf
  · cases o <;> cases hf
    have hdeep := Stage.deep_of_feedAll hfeed
    rw [List.length_nil, Nat.zero_add] at hdeep
    exact hdeep.trans_le (openTokens_scan_le _ cs 0)

/-- **Where an integer is refused, it stands in the text.** -/
theorem long_of_read [Platform] {cs : List Char} {digits : Nat}
    (h : read cs = .error (.integerTooLong digits)) :
    ∃ ds, LongRun cs ds ∧ ds.length = digits := by
  rcases exists_objection_of_read h with ⟨_, _, _, hf⟩ | ⟨o, hfeed, hf⟩
  · cases hf
  · cases o <;> cases hf
    obtain ⟨pos, hmem⟩ := Stage.long_of_feedAll hfeed
    exact exists_longRun_of_mem_tokens hmem

end Json

/-! ## Lines -/

namespace CompilerOutput

/-- A JSON text that is refused for its size: an integer of it has too many digits, or it nests
more lists and objects than may be open. -/
inductive Oversized [Platform] (cs : List Char) : Fault → Prop where
  | integer {ds : List Char} (refused : Json.read cs = .error (.integerTooLong ds.length))
      (run : Json.LongRun cs ds) : Oversized cs (.integerTooLong ds.length)
  | nesting (refused : Json.read cs = .error .nestedTooDeep)
      (deep : Platform.jsonNesting < Json.openMarks cs) : Oversized cs .nestedTooDeep

lemma oversized_iff [Platform] {line : String} {f : Fault} :
    Oversized line.toList f ↔ RefusedForSize line f := by
  constructor
  · rintro (⟨refused, run⟩ | ⟨refused, deep⟩)
    · exact .inr ⟨_, rfl, refused⟩
    · exact .inl ⟨rfl, refused⟩
  · rintro (⟨rfl, refused⟩ | ⟨digits, rfl, refused⟩)
    · exact .nesting refused (Json.deep_of_read refused)
    · obtain ⟨ds, run, rfl⟩ := Json.long_of_read refused
      exact .integer refused run

/-- A refusal for size is no complaint about a line. -/
lemma Oversized.ne_output [Platform] {cs : List Char} {f : Fault} (h : Oversized cs f)
    (cause : OutputFault) (line : String) : f ≠ .output cause line := by
  cases h <;> exact nofun

end CompilerOutput

/-- A line that is not read: a blank one, or the banner of a successful run. -/
def Generation.passesOver (g : Generation) (line : String) : Bool :=
  Text.isBlankText line.toList ||
    (g == .issueArrays && CompilerOutput.successBanner.toList.isPrefixOf line.toList)

namespace CompilerOutput

lemma readLine_of_passesOver [Platform] {g : Generation} {line : String}
    (h : g.passesOver line = true) (target : String) : g.readLine target line = .ok [] := by
  cases g with
  | issueArrays =>
    have hskip : (successBanner.toList.isPrefixOf line.toList ||
        Text.isBlankText line.toList) = true := by
      rw [Bool.or_comm]
      exact h
    rw [Generation.readLine, readIssueArray, hskip]
    rfl
  | reportDocuments =>
    have hskip : Text.isBlankText line.toList = true := by
      simpa [Generation.passesOver] using h
    rw [Generation.readLine, readReportDocument, hskip]
    rfl

/-- A line that is read and refused for its size is refused with that. -/
lemma readLine_of_refusedForSize [Platform] {g : Generation} {line : String} {f : Fault}
    (hread : g.passesOver line = false) (h : RefusedForSize line f) (target : String) :
    g.readLine target line = .error f := by
  have hline : readLine line = .error f := by
    rcases h with ⟨rfl, hrefused⟩ | ⟨digits, rfl, hrefused⟩
    · rw [readLine, hrefused]
      rfl
    · rw [readLine, hrefused]
      rfl
  cases g with
  | issueArrays =>
    have hskip : (successBanner.toList.isPrefixOf line.toList ||
        Text.isBlankText line.toList) = false := by
      rw [Bool.or_comm]
      exact hread
    rw [Generation.readLine, readIssueArray, hskip, hline]
    rfl
  | reportDocuments =>
    have hskip : Text.isBlankText line.toList = false := by
      simpa [Generation.passesOver] using hread
    rw [Generation.readLine, readReportDocument, hskip, hline]
    rfl

/-- **What goes past the complaints about a line.**  Reading a line yields diagnostics or complains
about exactly this line, unless the line is read and its JSON text is refused for its size; then
it is the refusal that comes out. -/
theorem readLine_escapes_iff [Platform] (g : Generation) (target line : String) (f : Fault) :
    (g.readLine target line = .error f ∧ ∀ cause, f ≠ .output cause line) ↔
      g.passesOver line = false ∧ Oversized line.toList f := by
  constructor
  · rintro ⟨h, hf⟩
    refine ⟨?_, ?_⟩
    · rw [Bool.eq_false_iff]
      intro hskip
      rw [readLine_of_passesOver hskip target] at h
      cases h
    · rcases readLine_error h with ⟨cause, rfl⟩ | hsize
      · exact absurd rfl (hf cause)
      · exact oversized_iff.2 hsize
  · rintro ⟨hread, hsize⟩
    exact ⟨readLine_of_refusedForSize hread (oversized_iff.1 hsize) target,
      fun cause => hsize.ne_output cause line⟩

/-- A line that consists of a long integer is not answered with a complaint about it. -/
theorem not_forall_readLine_complains :
    ¬ ∀ (g : Generation) (target line : String),
      (∃ ds, g.readLine target line = .ok ds) ∨
        ∃ cause, g.readLine target line = .error (.output cause line) := by
  intro h
  have hlong : Decimal.digitLimit < (List.replicate Decimal.digitLimit '1').length + 1 := by
    rw [List.length_replicate]
    exact Nat.lt_succ_self _
  have hdigits : ∀ c ∈ '1' :: List.replicate Decimal.digitLimit '1',
      Text.isAsciiDigit c = true := by
    rw [List.forall_mem_cons]
    refine ⟨rfl, fun c hc => ?_⟩
    rw [List.eq_of_mem_replicate hc]
    rfl
  have hread := readLine_of_digits hdigits (by decide) hlong .issueArrays "Main.elm"
  rcases h .issueArrays "Main.elm"
      (String.ofList ('1' :: List.replicate Decimal.digitLimit '1')) with ⟨ds, hds⟩ | ⟨cause, hc⟩
  · rw [hread] at hds
    cases hds
  · rw [hread] at hc
    cases hc

end CompilerOutput

end ElmOnSave
