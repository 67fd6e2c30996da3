import ElmOnSave.IssuePath
import ElmOnSave.Proofs.Splitting

/-!
# Spelling and joining paths

A path that was read has names that count and hold no slash (`wellFormed_ofString`), and such a path
is what its spelling is read as (`ofString_text`).  Joining spellings is joining paths
(`ofString_joinText`); so where a relative path leads, seen from a root, depends on the path that
the root spells and not on the spelling (`issuePath_congr`).

An absolute path in normal form has no `..` left, which is why a normal spelling is its own normal
spelling (`normText_normText`).
-/

namespace ElmOnSave

namespace Path

/-! ## The pieces between slashes -/

lemma pieces_of_not_mem {cs : List Char} (h : '/' ∉ cs) : pieces cs = [String.ofList cs] := by
  rw [pieces, Text.splitAll_of_forall_not, List.map_singleton]
  intro c hc
  exact beq_eq_false_iff_ne.2 fun hslash => h (hslash ▸ hc)

lemma pieces_append_cons (as bs : List Char) :
    pieces (as ++ '/' :: bs) = pieces as ++ pieces bs := by
  rw [pieces, Text.splitAll_append_cons as bs (by rfl), List.map_append]
  rfl

/-- A slash at the start adds no name. -/
lemma filter_pieces_cons_slash (cs : List Char) :
    (pieces ('/' :: cs)).filter isName = (pieces cs).filter isName := by
  have hcons : pieces ('/' :: cs) = "" :: pieces cs := pieces_append_cons [] cs
  rw [hcons, List.filter_cons_of_neg (by decide)]

/-- Nor does one at the end. -/
lemma filter_pieces_append_slash (cs : List Char) :
    (pieces (cs ++ ['/'])).filter isName = (pieces cs).filter isName := by
  have hlast : [""].filter isName = [] := by decide
  rw [pieces_append_cons cs [], List.filter_append]
  exact (congrArg _ hlast).trans (List.append_nil _)

lemma slash_not_mem_of_mem_pieces {cs : List Char} {s : String} (h : s ∈ pieces cs) :
    '/' ∉ s.toList := by
  obtain ⟨piece, hpiece, rfl⟩ := List.mem_map.1 h
  rw [String.toList_ofList]
  intro hslash
  simpa using Text.not_of_mem_splitAll hpiece '/' hslash

/-- Names joined by slashes are read as these names. -/
lemma pieces_intercalate {ns : List String} (hns : ∀ n ∈ ns, '/' ∉ n.toList) (hne : ns ≠ []) :
    pieces (String.intercalate "/" ns).toList = ns := by
  rw [String.toList_intercalate]
  induction ns with
  | nil => exact absurd rfl hne
  | cons n ns ih =>
    have hn : pieces n.toList = [n] := by
      rw [pieces_of_not_mem (hns n (List.mem_cons_self ..)), String.ofList_toList]
    cases ns with
    | nil => simpa using hn
    | cons n' ns =>
      have htail := ih (fun m hm => hns m (List.mem_cons_of_mem n hm)) (List.cons_ne_nil n' ns)
      have hcons := pieces_append_cons n.toList
        (List.intercalate "/".toList ((n' :: ns).map String.toList))
      rw [hn, htail] at hcons
      simpa [List.intercalate_cons_cons] using hcons

/-! ## Slashes at the start -/

/-- The number of slashes a text starts with. -/
def slashes (cs : List Char) : Nat :=
  (cs.takeWhile (· == '/')).length

@[simp] lemma slashes_nil : slashes [] = 0 := rfl

@[simp] lemma slashes_cons_slash (cs : List Char) : slashes ('/' :: cs) = slashes cs + 1 := rfl

lemma slashes_eq_zero_iff (cs : List Char) : slashes cs = 0 ↔ ∀ ds, cs ≠ '/' :: ds := by
  cases cs with
  | nil => simp
  | cons c cs => by_cases hc : c = '/' <;> simp [slashes, hc]

/-- What does not start with a slash adds no slash. -/
lemma slashes_append {as bs : List Char} (hbs : slashes bs = 0) :
    slashes (as ++ bs) = slashes as := by
  rw [slashes, List.length_eq_zero_iff] at hbs
  rw [slashes, slashes, List.takeWhile_append, hbs]
  split
  · rename_i hall
    rw [List.append_nil, hall]
  · rfl

/-- The anchor is told by the number of slashes. -/
lemma anchorOf_eq (cs : List Char) :
    anchorOf cs =
      if slashes cs = 0 then .relative else if slashes cs = 2 then .doubleRoot else .root := by
  fun_cases anchorOf cs with
  | case1 ds => simp
  | case2 ds h => simp [(slashes_eq_zero_iff ds).2 h]
  | case3 ds _ h => simp [(slashes_eq_zero_iff ds).2 h]
  | case4 _ _ _ h => simp [(slashes_eq_zero_iff _).2 h]

lemma anchorOf_append {as bs : List Char} (hbs : slashes bs = 0) :
    anchorOf (as ++ bs) = anchorOf as := by
  rw [anchorOf_eq, anchorOf_eq, slashes_append hbs]

lemma slashes_toList_eq_zero_iff (s : String) :
    slashes s.toList = 0 ↔ isAbsoluteText s = false := by
  rw [slashes_eq_zero_iff, isAbsoluteText, String.startsWith_string_eq_false_iff]
  exact ⟨fun h ⟨ds, hds⟩ => h ds hds.symm, fun h ds hds => h ⟨ds, hds.symm⟩⟩

lemma isAbsolute_ofString (s : String) : (ofString s).isAbsolute = isAbsoluteText s := by
  have hslashes := slashes_toList_eq_zero_iff s
  rw [isAbsolute, ofString, anchorOf_eq]
  cases habs : isAbsoluteText s with
  | false => simp [hslashes.2 habs]
  | true =>
    have hne : slashes s.toList ≠ 0 := by simp [hslashes, habs]
    rw [if_neg hne]
    split <;> rfl

/-! ## Reading and spelling -/

/-- The names of a path count, and none holds a slash. -/
def WellFormed (p : Path) : Prop :=
  ∀ n ∈ p.names, isName n = true ∧ '/' ∉ n.toList

theorem wellFormed_ofString (s : String) : (ofString s).WellFormed := by
  intro n hn
  obtain ⟨hpiece, hname⟩ := List.mem_filter.1 hn
  exact ⟨hname, slash_not_mem_of_mem_pieces hpiece⟩

lemma WellFormed.filter_names {p : Path} (hp : p.WellFormed) : p.names.filter isName = p.names :=
  List.filter_eq_self.2 fun n hn => (hp n hn).1

lemma WellFormed.parent {p : Path} (hp : p.WellFormed) : p.parent.WellFormed :=
  fun n hn => hp n (List.mem_of_mem_dropLast hn)

lemma WellFormed.ancestor {p q : Path} (hp : p.WellFormed) (hq : q ∈ p.ancestors) :
    q.WellFormed := by
  obtain ⟨n, -, rfl⟩ := List.mem_map.1 hq
  exact fun m hm => hp m (List.mem_of_mem_take hm)

/-- Names joined by slashes start with no slash. -/
lemma WellFormed.slashes_intercalate {p : Path} (hp : p.WellFormed) :
    slashes (String.intercalate "/" p.names).toList = 0 := by
  rw [String.toList_intercalate]
  cases hnames : p.names with
  | nil => rfl
  | cons n ns =>
    obtain ⟨hname, hslash⟩ := hp n (by simp [hnames])
    cases hn : n.toList with
    | nil => simp [isName, String.toList_eq_nil_iff.1 hn] at hname
    | cons c cs =>
      rw [slashes_eq_zero_iff]
      rintro ds heq
      cases ns with
      | nil => simp_all
      | cons n' ns => simp_all [List.intercalate_cons_cons]

/-- A path is what its spelling is read as. -/
theorem ofString_text {p : Path} (hp : p.WellFormed) : ofString p.text = p := by
  by_cases hnil : p.names = []
  · obtain ⟨a, ns⟩ := p
    subst hnil
    cases a <;> decide
  · have htext : p.text = p.anchor.text ++ String.intercalate "/" p.names := by
      rw [text]
      split
      · rename_i hnames
        exact absurd hnames hnil
      · rfl
    have hanchor : anchorOf p.text.toList = p.anchor := by
      rw [htext, String.toList_append, anchorOf_append hp.slashes_intercalate]
      cases p.anchor <;> rfl
    have hbody : (pieces (String.intercalate "/" p.names).toList).filter isName = p.names := by
      rw [pieces_intercalate (fun n hn => (hp n hn).2) hnil, hp.filter_names]
    have hnames : (pieces p.text.toList).filter isName = p.names := by
      rw [htext, String.toList_append]
      generalize (String.intercalate "/" p.names).toList = body at hbody ⊢
      cases p.anchor <;> simpa [Anchor.text, filter_pieces_cons_slash] using hbody
    rw [ofString, hanchor, hnames]

/-! ## Joining -/

/-- A slash behind a text that ends with none adds no anchor. -/
lemma anchorOf_append_slash {cs : List Char} {c : Char} (hc : c ≠ '/') :
    anchorOf (cs ++ [c] ++ ['/']) = anchorOf (cs ++ [c]) := by
  have hslashes : ∀ ds, slashes (c :: ds) = 0 := fun ds =>
    (slashes_eq_zero_iff _).2 fun _ heq => hc (List.cons.inj heq).1
  rw [List.append_assoc, List.singleton_append, anchorOf_append (hslashes _),
    anchorOf_append (hslashes _)]

/-- A spelling cut at a slash: its names are those on both sides. -/
lemma ofString_of_toList {s : String} {as bs : List Char} (hs : s.toList = as ++ '/' :: bs)
    (hbs : slashes bs = 0) :
    ofString s =
      ⟨anchorOf (as ++ ['/']), (pieces as).filter isName ++ (pieces bs).filter isName⟩ := by
  have hanchor : anchorOf (as ++ ['/'] ++ bs) = anchorOf (as ++ ['/']) := anchorOf_append hbs
  rw [List.append_assoc, List.singleton_append] at hanchor
  rw [ofString, hs, hanchor, pieces_append_cons, List.filter_append]

lemma endsWith_slash_iff (s : String) :
    s.endsWith "/" = true ↔ ∃ cs, s.toList = cs ++ ['/'] := by
  have hslice : s.endsWith "/" = s.toSlice.endsWith "/" := rfl
  rw [hslice, String.Slice.endsWith_string_iff, String.copy_toSlice]
  exact ⟨fun ⟨cs, hcs⟩ => ⟨cs, hcs.symm⟩, fun ⟨cs, hcs⟩ => ⟨cs, hcs.symm⟩⟩

/-- Joining a relative spelling behind another is joining the paths they spell. -/
theorem ofString_joinText {a b : String} (hb : isAbsoluteText b = false) :
    ofString (joinText a b) = (ofString a).join (ofString b) := by
  have hbs : slashes b.toList = 0 := (slashes_toList_eq_zero_iff b).2 hb
  have hrelative : (ofString b).isAbsolute = false := by rw [isAbsolute_ofString, hb]
  rw [join, hrelative, if_neg Bool.false_ne_true, joinText, ← isAbsoluteText, hb,
    if_neg Bool.false_ne_true]
  by_cases hempty : a = ""
  · subst hempty
    rw [if_pos (.inl rfl), String.empty_append, ofString, anchorOf_eq, hbs]
    rfl
  by_cases hslash : a.endsWith "/" = true
  · obtain ⟨as, has⟩ := (endsWith_slash_iff a).1 hslash
    have hjoined : (a ++ b).toList = as ++ '/' :: b.toList := by
      rw [String.toList_append, has, List.append_assoc, List.singleton_append]
    rw [if_pos (.inr hslash), ofString_of_toList hjoined hbs, ofString, ofString, has,
      filter_pieces_append_slash]
  · have hjoined : (a ++ "/" ++ b).toList = a.toList ++ '/' :: b.toList := by
      simp [String.toList_append]
    rw [if_neg (not_or.2 ⟨hempty, hslash⟩), ofString_of_toList hjoined hbs, ofString, ofString]
    rcases List.eq_nil_or_concat' a.toList with hnil | ⟨as, c, has⟩
    · exact absurd (String.toList_eq_nil_iff.1 hnil) hempty
    · have hc : c ≠ '/' := fun hc => hslash ((endsWith_slash_iff a).2 ⟨as, hc ▸ has⟩)
      rw [has, anchorOf_append_slash hc]

/-- Where a relative path leads depends on the path that the root spells. -/
lemma normText_joinText_congr {a a' b : String} (ha : ofString a = ofString a')
    (hb : isAbsoluteText b = false) : normText (joinText a b) = normText (joinText a' b) := by
  rw [normText, normText, ofString_joinText hb, ofString_joinText hb, ha]

/-! ## Normal paths -/

lemma WellFormed.join {p q : Path} (hp : p.WellFormed) (hq : q.WellFormed) :
    (p.join q).WellFormed := by
  rw [Path.join]
  split
  · exact hq
  · intro n hn
    exact (List.mem_append.1 hn).elim (hp n) (hq n)

/-- One more name brings up no other name. -/
lemma mem_normalStep {a : Anchor} {acc : List String} {name n : String} :
    n ∈ normalStep a acc name → n = name ∨ n ∈ acc := by
  fun_cases normalStep a acc name with
  | case1 hname => simp [hname]
  | case2 => simp
  | case3 hname => simp [hname]
  | case4 _ m => exact fun h => .inr (List.mem_cons_of_mem m h)
  | case5 => exact List.mem_cons.1

lemma mem_foldl_normalStep {a : Anchor} {names acc : List String} {n : String}
    (h : n ∈ names.foldl (normalStep a) acc) : n ∈ names ∨ n ∈ acc := by
  induction names generalizing acc with
  | nil => exact .inr h
  | cons name names ih =>
    rcases ih h with hnames | hstep
    · exact .inl (List.mem_cons_of_mem name hnames)
    · rcases mem_normalStep hstep with rfl | hacc
      · exact .inl (List.mem_cons_self ..)
      · exact .inr hacc

lemma WellFormed.normalize {p : Path} (hp : p.WellFormed) : p.normalize.WellFormed := by
  intro n hn
  rcases mem_foldl_normalStep (List.mem_reverse.1 hn) with hnames | hnil
  · exact hp n hnames
  · exact absurd hnil (List.not_mem_nil)

@[simp] lemma isAbsolute_normalize (p : Path) : p.normalize.isAbsolute = p.isAbsolute := rfl

/-- At a root every `..` finds a name to take away, or vanishes. -/
lemma dots_not_mem_foldl_normalStep {a : Anchor} (ha : a ≠ .relative) {names acc : List String}
    (hacc : ".." ∉ acc) : ".." ∉ names.foldl (normalStep a) acc := by
  induction names generalizing acc with
  | nil => exact hacc
  | cons name names ih =>
    refine ih ?_
    fun_cases normalStep a acc name with
    | case1 _ hrelative => exact absurd hrelative ha
    | case2 => exact List.not_mem_nil
    | case3 => exact absurd (List.mem_cons_self ..) hacc
    | case4 => exact fun hdots => hacc (List.mem_cons_of_mem _ hdots)
    | case5 _ hname => exact List.not_mem_cons_of_ne_of_not_mem (Ne.symm hname) hacc

lemma dots_not_mem_normalize {p : Path} (hp : p.isAbsolute = true) :
    ".." ∉ p.normalize.names := by
  rw [Path.normalize, List.mem_reverse]
  exact dots_not_mem_foldl_normalStep (bne_iff_ne.1 hp) List.not_mem_nil

lemma foldl_normalStep_of_not_mem {a : Anchor} {names : List String} (h : ".." ∉ names)
    (acc : List String) : names.foldl (normalStep a) acc = names.reverse ++ acc := by
  induction names generalizing acc with
  | nil => rfl
  | cons name names ih =>
    obtain ⟨hname, hnames⟩ := List.ne_and_not_mem_of_not_mem_cons h
    have hstep : normalStep a acc name = name :: acc := if_neg hname.symm
    rw [List.foldl_cons, ih hnames, hstep, List.reverse_cons, List.append_assoc,
      List.singleton_append]

/-- A path without `..` is in normal form. -/
lemma normalize_of_not_mem {p : Path} (h : ".." ∉ p.names) : p.normalize = p := by
  rw [Path.normalize, foldl_normalStep_of_not_mem h, List.append_nil, List.reverse_reverse]

/-! ## Normal spellings -/

lemma ofString_normText (s : String) : ofString (normText s) = (ofString s).normalize :=
  ofString_text (wellFormed_ofString s).normalize

lemma isAbsoluteText_normText (s : String) : isAbsoluteText (normText s) = isAbsoluteText s := by
  rw [← isAbsolute_ofString, ofString_normText, isAbsolute_normalize, isAbsolute_ofString]

/-- The normal spelling of an absolute path is in normal form. -/
theorem normText_normText {s : String} (h : isAbsoluteText s = true) :
    normText (normText s) = normText s := by
  rw [← isAbsolute_ofString] at h
  rw [normText, ofString_normText, normalize_of_not_mem (dots_not_mem_normalize h)]
  rfl

lemma absText_of_isAbsoluteText {s : String} (h : isAbsoluteText s = true) (cwd : String) :
    absText cwd s = normText s := by
  rw [absText, joinText, ← isAbsoluteText, if_pos h]

/-- Behind an absolute path every path is absolute. -/
lemma isAbsoluteText_joinText {a : String} (ha : isAbsoluteText a = true) (b : String) :
    isAbsoluteText (joinText a b) = true := by
  cases hb : isAbsoluteText b with
  | true => rw [joinText, ← isAbsoluteText, if_pos hb, hb]
  | false =>
    have hrelative : (ofString b).isAbsolute = false := by rw [isAbsolute_ofString, hb]
    rw [← isAbsolute_ofString, ofString_joinText hb, join, hrelative, if_neg Bool.false_ne_true]
    rw [← isAbsolute_ofString] at ha
    exact ha

section WorkingDirectory

variable {cwd : String} (hcwd : isAbsoluteText cwd = true) (s : String)

include hcwd

lemma isAbsoluteText_absText : isAbsoluteText (absText cwd s) = true := by
  rw [absText, isAbsoluteText_normText]
  exact isAbsoluteText_joinText hcwd s

/-- What has been made absolute stays as it is. -/
theorem absText_absText : absText cwd (absText cwd s) = absText cwd s := by
  rw [absText_of_isAbsoluteText (isAbsoluteText_absText hcwd s)]
  exact normText_normText (isAbsoluteText_joinText hcwd s)

end WorkingDirectory

end Path

/-- Where a relative path leads depends on the path that the root spells. -/
theorem issuePath_congr {root root' : String} (h : Path.ofString root = Path.ofString root')
    (file : String) : issuePath file (some root) = issuePath file (some root') := by
  cases habs : Path.isAbsoluteText file with
  | true => simp only [issuePath, habs, if_true]
  | false =>
    simp only [issuePath, habs, Bool.false_eq_true, if_false]
    exact Path.normText_joinText_congr h habs

end ElmOnSave
