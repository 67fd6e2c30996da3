import ElmOnSave.Marker
import ElmOnSave.Proofs.Splitting
import ElmOnSave.Proofs.TokenCuts

/-!
# Colour markers are deleted where they stand

A `Marker` is a kind of token (`Marker.kind`), so a text is cut at its markers in exactly one way.
`Marker.strip` takes the steps of that search: it passes over a marker (`Marker.strip_written`) and
keeps a character at which none begins (`Marker.strip_cons_of_not_begins`), even though the machine
behind it reads ahead.  What it holds back is the start of a marker, and the machine lets go of it as
soon as no marker can come of it (`Marker.State.readOn_of_stops`).

So stripping keeps what stands between the markers (`Marker.strip_deletes_markers`).
-/

namespace ElmOnSave

/-- A colour marker: an opening bracket, perhaps behind an escape character, decimal digits and the
letter `m`. -/
structure Marker where
  escaped : Bool
  digits : List Char
  isDecimal : ∀ c ∈ digits, Text.isDecimal c = true
  digits_ne_nil : digits ≠ []

namespace Marker

/-- How a marker starts. -/
def lead (escaped : Bool) : List Char :=
  if escaped then [escape, '['] else ['[']

/-- The characters of a marker. -/
def written (m : Marker) : List Char :=
  lead m.escaped ++ (m.digits ++ ['m'])

/-! ## Markers as tokens -/

lemma lead_ne_nil (escaped : Bool) : lead escaped ≠ [] := by
  cases escaped <;> exact List.cons_ne_nil _ _

lemma lead_append_inj {e e' : Bool} {xs ys : List Char} (h : lead e ++ xs = lead e' ++ ys) :
    e = e' ∧ xs = ys := by
  have hescape : escape ≠ '[' := by decide
  cases e <;> cases e'
  · exact ⟨rfl, (List.cons.inj h).2⟩
  · exact absurd (List.cons.inj h).1.symm hescape
  · exact absurd (List.cons.inj h).1 hescape
  · exact ⟨rfl, (List.cons.inj (List.cons.inj h).2).2⟩

/-- The digits of a marker reach up to its last letter. -/
lemma takeWhile_digits_append (m : Marker) (rest : List Char) :
    (m.digits ++ 'm' :: rest).takeWhile Text.isDecimal = m.digits := by
  refine takeWhile_run m.isDecimal ?_
  rintro c ⟨⟩
  decide

lemma written_append (m : Marker) (rest : List Char) :
    m.written ++ rest = lead m.escaped ++ (m.digits ++ 'm' :: rest) := by
  simp [written]

lemma eq_of_written_append_eq {m m' : Marker} {rest rest' : List Char}
    (h : m.written ++ rest = m'.written ++ rest') : m = m' := by
  rw [written_append, written_append] at h
  obtain ⟨hescaped, hrest⟩ := lead_append_inj h
  have hdigits := congrArg (List.takeWhile Text.isDecimal) hrest
  rw [takeWhile_digits_append, takeWhile_digits_append] at hdigits
  cases m
  cases m'
  simp only [mk.injEq]
  exact ⟨hescaped, hdigits⟩

/-- Markers are tokens wherever they stand. -/
def kind : TokenKind Marker where
  written := written
  Ends _ _ := True
  written_ne_nil m := by simp [written, lead_ne_nil]
  unique _ _ h := eq_of_written_append_eq h

@[simp] lemma written_kind : kind.written = written := rfl

/-- A run of digits. -/
def IsDigits (ds : List Char) : Prop :=
  ∀ c ∈ ds, Text.isDecimal c = true

lemma begins_of_digits (escaped : Bool) {ds : List Char} (hds : IsDigits ds) (hne : ds ≠ [])
    (rest : List Char) : kind.Begins (lead escaped ++ (ds ++ 'm' :: rest)) :=
  ⟨⟨escaped, ds, hds, hne⟩, rest, trivial, written_append _ rest⟩

/-- It makes no difference to what follows the bracket whether it is escaped. -/
lemma begins_lead {e : Bool} {cs : List Char} (h : kind.Begins (lead e ++ cs)) (e' : Bool) :
    kind.Begins (lead e' ++ cs) := by
  obtain ⟨m, rest, -, hm⟩ := h
  obtain ⟨-, rfl⟩ := lead_append_inj ((written_append m rest).symm.trans hm)
  exact begins_of_digits e' m.isDecimal m.digits_ne_nil rest

/-! ## The machine -/

namespace State

/-- What is read in the end when the text goes on like this. -/
def readOn (s : State) (cs : List Char) : List Char :=
  (cs.foldl feed s).finish

/-- The state with some text kept before all else. -/
def behind (kept : List Char) (s : State) : State :=
  { s with kept := s.kept ++ kept }

/-- The state in which nothing is kept and some characters are held back. -/
def holding (held : List Char) (phase : Phase) : State :=
  ⟨[], held.reverse, phase⟩

variable {s : State} {c : Char} {cs held : List Char} {phase : Phase}

lemma readOn_cons : s.readOn (c :: cs) = (s.feed c).readOn cs := rfl

lemma restart_eq_behind (kept : List Char) (c : Char) :
    restart kept c = (restart [] c).behind kept := by
  unfold restart
  split_ifs <;> rfl

lemma feed_initial (c : Char) : initial.feed c = restart [] c := rfl

lemma release_behind (kept : List Char) (s : State) (c : Char) :
    (s.behind kept).release c = (s.release c).behind kept := by
  rw [release, release, restart_eq_behind, restart_eq_behind (s.held ++ s.kept)]
  simp only [behind, List.append_assoc]

lemma feed_behind (kept : List Char) (s : State) (c : Char) :
    (s.behind kept).feed c = (s.feed c).behind kept := by
  have hphase : (s.behind kept).phase = s.phase := rfl
  unfold feed
  rw [hphase, release_behind]
  cases s.phase <;> dsimp only <;> split_ifs <;> rfl

/-- What was kept comes first in the end. -/
lemma readOn_behind (kept : List Char) (s : State) (cs : List Char) :
    (s.behind kept).readOn cs = kept.reverse ++ s.readOn cs := by
  induction cs generalizing s with
  | nil => simp [readOn, finish, behind]
  | cons c cs ih => rw [readOn_cons, readOn_cons, feed_behind, ih]

/-- What is held back is let go of when the text is over, or when its next character makes it none
of a marker. -/
lemma readOn_of_stops
    (h : ∀ c ∈ cs.head?, (holding held phase).feed c = (holding held phase).release c) :
    (holding held phase).readOn cs = held ++ strip cs := by
  cases cs with
  | nil => simp [readOn, finish, holding, strip, initial]
  | cons c cs =>
    have hrelease : (holding held phase).release c = (initial.feed c).behind held.reverse := by
      rw [release, restart_eq_behind, feed_initial, holding, List.append_nil]
    rw [readOn_cons, h c rfl, hrelease, readOn_behind, List.reverse_reverse]
    rfl

/-! ### Behind a bracket -/

lemma readOn_opened_digit (h : Text.isDecimal c = true) :
    (holding held .opened).readOn (c :: cs) = (holding (held ++ [c]) .counting).readOn cs := by
  rw [readOn_cons, feed, holding]
  simp only [h, if_true, holding, List.reverse_append, List.reverse_singleton,
    List.singleton_append]

lemma readOn_counting_digit (h : Text.isDecimal c = true) :
    (holding held .counting).readOn (c :: cs) = (holding (held ++ [c]) .counting).readOn cs := by
  have hletter : c ≠ 'm' := by
    rintro rfl
    exact absurd h (by decide)
  rw [readOn_cons, feed, holding]
  simp only [h, hletter, if_true, if_false, holding, List.reverse_append, List.reverse_singleton,
    List.singleton_append]

lemma readOn_counting_digits {ds : List Char} (hds : IsDigits ds) :
    (holding held .counting).readOn (ds ++ cs) = (holding (held ++ ds) .counting).readOn cs := by
  induction ds generalizing held with
  | nil => rw [List.nil_append, List.append_nil]
  | cons d ds ih =>
    obtain ⟨hd, hds⟩ := List.forall_mem_cons.1 hds
    rw [List.cons_append, readOn_counting_digit hd, ih hds, List.append_assoc,
      List.singleton_append]

lemma readOn_opened_digits {ds : List Char} (hds : IsDigits ds) (hne : ds ≠ []) :
    (holding held .opened).readOn (ds ++ cs) = (holding (held ++ ds) .counting).readOn cs := by
  obtain ⟨d, ds, rfl⟩ := List.exists_cons_of_ne_nil hne
  obtain ⟨hd, hds⟩ := List.forall_mem_cons.1 hds
  rw [List.cons_append, readOn_opened_digit hd, readOn_counting_digits hds, List.append_assoc,
    List.singleton_append]

/-- A marker that is complete is dropped. -/
lemma readOn_opened_of_complete {ds : List Char} (hds : IsDigits ds) (hne : ds ≠ []) :
    (holding held .opened).readOn (ds ++ 'm' :: cs) = strip cs := by
  rw [readOn_opened_digits hds hne]
  rfl

end State

variable {c : Char} {cs : List Char}

lemma strip_lead (escaped : Bool) (cs : List Char) :
    strip (lead escaped ++ cs) = (State.holding (lead escaped) .opened).readOn cs := by
  cases escaped <;> rfl

lemma strip_cons_of_plain (hescape : c ≠ escape) (hbracket : c ≠ '[') :
    strip (c :: cs) = c :: strip cs := by
  have hkept : State.restart [] c = State.initial.behind [c] := by
    rw [State.restart, if_neg hescape, if_neg hbracket]
    rfl
  change (State.restart [] c).readOn cs = _
  rw [hkept, State.readOn_behind]
  rfl

lemma strip_digits {ds : List Char} (hds : IsDigits ds) : strip (ds ++ cs) = ds ++ strip cs := by
  induction ds with
  | nil => rfl
  | cons d ds ih =>
    obtain ⟨hd, hds⟩ := List.forall_mem_cons.1 hds
    have hescape : d ≠ escape := by
      rintro rfl
      exact absurd hd (by decide)
    have hbracket : d ≠ '[' := by
      rintro rfl
      exact absurd hd (by decide)
    rw [List.cons_append, strip_cons_of_plain hescape hbracket, ih hds, List.cons_append]

/-- A start of which no marker comes is kept. -/
lemma strip_lead_of_not_begins (escaped : Bool) (h : ¬ kind.Begins (lead escaped ++ cs)) :
    strip (lead escaped ++ cs) = lead escaped ++ strip cs := by
  have hsplit := List.takeWhile_append_dropWhile (p := Text.isDecimal) (l := cs)
  have hds : IsDigits (cs.takeWhile Text.isDecimal) := fun c hc => List.mem_takeWhile_imp hc
  have hstop : ∀ c ∈ (cs.dropWhile Text.isDecimal).head?, Text.isDecimal c = false :=
    fun c hc => eq_false_of_mem_head?_dropWhile hc
  generalize cs.takeWhile Text.isDecimal = ds at hsplit hds
  generalize cs.dropWhile Text.isDecimal = rest at hsplit hstop
  subst hsplit
  rw [strip_lead, strip_digits hds]
  by_cases hne : ds = []
  · subst hne
    rw [List.nil_append, List.nil_append]
    refine State.readOn_of_stops ?_
    intro c hc
    simp [State.feed, State.holding, hstop c hc]
  · rw [State.readOn_opened_digits hds hne, ← List.append_assoc]
    refine State.readOn_of_stops ?_
    intro c hc
    have hletter : c ≠ 'm' := by
      rintro rfl
      obtain ⟨rest, rfl⟩ := List.head?_eq_some_iff.1 hc
      exact h (begins_of_digits escaped hds hne rest)
    simp [State.feed, State.holding, hstop c hc, hletter]

/-- A marker is passed over. -/
lemma strip_written (m : Marker) (rest : List Char) : strip (m.written ++ rest) = strip rest := by
  rw [written_append, strip_lead]
  exact State.readOn_opened_of_complete m.isDecimal m.digits_ne_nil

/-- A character at which no marker begins is kept. -/
lemma strip_cons_of_not_begins (h : ¬ kind.Begins (c :: cs)) : strip (c :: cs) = c :: strip cs := by
  by_cases hbracket : c = '['
  · subst hbracket
    exact strip_lead_of_not_begins false h
  by_cases hescape : c = escape
  · subst hescape
    by_cases hnext : cs.head? = some '['
    · obtain ⟨cs, rfl⟩ := List.head?_eq_some_iff.1 hnext
      have hinner : ¬ kind.Begins (lead false ++ cs) := fun hbegins => h (begins_lead hbegins true)
      exact (strip_lead_of_not_begins true h).trans
        (congrArg (escape :: ·) (strip_lead_of_not_begins false hinner).symm)
    · change (State.holding [escape] .escaped).readOn cs = [escape] ++ strip cs
      refine State.readOn_of_stops ?_
      intro c hc
      have hc : c ≠ '[' := by
        rintro rfl
        exact hnext hc
      simp [State.feed, State.holding, hc]
  exact strip_cons_of_plain hescape hbracket

/-! ## Markers in a text -/

/-- A marker stands somewhere in the text. -/
def Occurs (text : List Char) : Prop :=
  ∃ m : Marker, m.written <:+: text

/-- A marker stands across the border of two texts. -/
def Crosses (front back : List Char) : Prop :=
  ∃ (m : Marker) (x y : List Char), x ≠ [] ∧ y ≠ [] ∧ m.written = x ++ y ∧ x <:+ front ∧ y <+: back

variable {text : List Char} {cutting : Cutting Marker}

/-- Stripping leaves the pieces between the markers. -/
lemma strip_eq_kept (h : kind.IsCuttingOf cutting text) : strip text = cutting.kept := by
  refine h.eq_replaced rfl ?_ ?_
  · intro ch rest hbegins
    exact strip_cons_of_not_begins hbegins
  · intro m rest _
    rw [List.nil_append]
    exact strip_written m rest

lemma count_bracket_written (m : Marker) : m.written.count '[' = 1 := by
  have hdigits : m.digits.count '[' = 0 := by
    refine List.count_eq_zero.2 fun hmem => ?_
    exact absurd (m.isDecimal _ hmem) (by decide)
  have hlead : (lead m.escaped).count '[' = 1 := by
    cases m.escaped <;> decide
  rw [written, List.count_append, List.count_append, hlead, hdigits]
  rfl

/-- Every marker takes its bracket along, and no other bracket goes. -/
lemma count_bracket_kept (h : kind.IsCuttingOf cutting text) :
    cutting.kept.count '[' + cutting.tokens.length = text.count '[' := by
  obtain ⟨rfl, -⟩ := h
  induction cutting with
  | last gap => rfl
  | token gap m rest ih =>
    rw [TokenKind.text_token, Cutting.kept_token, Cutting.tokens, List.count_append,
      List.count_append, List.count_append, ← ih, written_kind, count_bracket_written,
      List.length_cons]
    omega

/-- No marker stands in a stretch at which none begins. -/
lemma not_occurs_of_skips {gap rest : List Char} (h : kind.Skips gap rest) : ¬ Occurs gap := by
  rintro ⟨m, before, after, rfl⟩
  refine h (m.written ++ after) ?_ (by simp [written]) ?_
  · rw [List.append_assoc]
    exact List.suffix_append before _
  · exact ⟨m, after ++ rest, trivial, (List.append_assoc _ _ _).symm⟩

/-- A text holds a marker if some marker is deleted from it. -/
lemma occurs_iff_tokens_ne_nil (h : kind.IsCuttingOf cutting text) :
    Occurs text ↔ cutting.tokens ≠ [] := by
  obtain ⟨rfl, h⟩ := h
  cases cutting with
  | last gap => simpa [Cutting.tokens] using not_occurs_of_skips h
  | token gap m rest =>
    refine iff_of_true ⟨m, gap, kind.text rest, ?_⟩ (List.cons_ne_nil _ _)
    rw [TokenKind.text_token, List.append_assoc]
    rfl

/-- What stripping leaves as it is are the texts without markers. -/
lemma strip_eq_self_iff : strip text = text ↔ ¬ Occurs text := by
  obtain ⟨cutting, h⟩ := kind.exists_isCuttingOf text
  rw [occurs_iff_tokens_ne_nil h, not_not, strip_eq_kept h]
  constructor
  · intro hkept
    have hcount := count_bracket_kept h
    rw [hkept] at hcount
    exact List.length_eq_zero_iff.1 (by omega)
  · intro hnone
    obtain ⟨rfl, -⟩ := h
    cases cutting with
    | last gap => rfl
    | token gap m rest => cases hnone

/-- A marker of two texts that does not stand across their border stands in one of them. -/
lemma begins_or_crosses {front back : List Char} (hne : front ≠ [])
    (h : kind.Begins (front ++ back)) : kind.Begins front ∨ Crosses front back := by
  obtain ⟨m, rest, -, hm⟩ := h
  obtain ⟨inside, rfl, -⟩ | ⟨across, hwritten, hback⟩ := List.append_eq_append_iff.1 hm
  · exact .inl ⟨m, inside, trivial, rfl⟩
  by_cases hacross : across = []
  · subst hacross
    rw [List.append_nil] at hwritten
    exact .inl ⟨m, [], trivial, by rw [List.append_nil]; exact hwritten⟩
  · exact .inr ⟨m, front, across, hne, hacross, hwritten, List.suffix_rfl, ⟨rest, hback.symm⟩⟩

lemma Crosses.append_left {front back : List Char} (h : Crosses front back) (before : List Char) :
    Crosses (before ++ front) back := by
  obtain ⟨m, x, y, hx, hy, hm, hfront, hback⟩ := h
  exact ⟨m, x, y, hx, hy, hm, hfront.trans (List.suffix_append before front), hback⟩

lemma strip_append {front back : List Char} (h : ¬ Crosses front back) :
    strip (front ++ back) = strip front ++ strip back := by
  induction front using TokenKind.search_induction (K := kind) with
  | nil => rfl
  | skip ch rest hbegins ih =>
    have hnone : ¬ kind.Begins (ch :: (rest ++ back)) := by
      intro hmore
      obtain hfirst | hcrosses := begins_or_crosses (List.cons_ne_nil ch rest) hmore
      · exact hbegins hfirst
      · exact h hcrosses
    rw [List.cons_append, strip_cons_of_not_begins hnone, strip_cons_of_not_begins hbegins,
      ih fun hcrosses => h (hcrosses.append_left [ch]), List.cons_append]
  | token m rest _ ih =>
    change strip (m.written ++ rest ++ back) = strip (m.written ++ rest) ++ strip back
    rw [List.append_assoc, strip_written, strip_written,
      ih fun hcrosses => h (hcrosses.append_left m.written)]

/-- **Stripping deletes the markers and nothing else.**  There is exactly one way to cut a text at
its markers, each of them the first that begins behind the one before, and stripping leaves what
stands between them.  So nothing is put in or moved, a text is left as it is exactly if no marker
stands in it, the brackets that go are those of the markers, and two texts can be stripped one by one
unless a marker stands across their border. -/
theorem strip_deletes_markers (text : List Char) :
    ∃ c : Cutting Marker, (∀ c', kind.IsCuttingOf c' text ↔ c' = c) ∧ strip text = c.kept ∧
      (strip text).Sublist text ∧ (strip text = text ↔ ¬ Occurs text) ∧
      (strip text).count '[' + c.tokens.length = text.count '[' ∧
      ∀ front back, text = front ++ back → ¬ Crosses front back →
        strip text = strip front ++ strip back := by
  obtain ⟨c, hc⟩ := kind.exists_isCuttingOf text
  refine ⟨c, hc.iff_eq, strip_eq_kept hc, ?_, strip_eq_self_iff, ?_, ?_⟩
  · rw [strip_eq_kept hc, ← hc.text_eq]
    exact c.kept_sublist_replaced
  · rw [strip_eq_kept hc]
    exact count_bracket_kept hc
  · rintro front back rfl hborder
    exact strip_append hborder

example : strip "[3[31m1mx".toList = "[31mx".toList := by
  decide +kernel

end Marker

end ElmOnSave
