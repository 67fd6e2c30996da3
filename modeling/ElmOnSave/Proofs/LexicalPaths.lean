import ElmOnSave.Proofs.AbsoluteLocations

/-!
# Paths of issues as walks

Read piece by piece, a path is a walk: an empty piece and `.` stay where they are, `..` leads to the
directory above, of which the top has none, and every other piece leads one name further
(`Path.advance`, `Path.follow`).  Bringing an absolute path into normal form is taking this walk
from the top (`names_normalize`), so a relative path of an issue leads where the walk along
it leads from where the root led, and is spelled by the names on the way there
(`issuePath_eq_follow`).

Two spellings that differ by a piece that stays, or by a name with `..` behind it, are the same walk
(`Respelling.follow_eq`).  `issuePath_is_walk` puts this together.
-/

namespace ElmOnSave

namespace Path

/-! ## Walks -/

/-- One piece further from the directory that the names lead to. -/
def advance (here : List String) (piece : String) : List String :=
  if isName piece then if piece = ".." then here.dropLast else here ++ [piece] else here

/-- Where the pieces of a spelling lead from a directory. -/
def follow (here : List String) (s : String) : List String :=
  (pieces s.toList).foldl advance here

lemma advance_of_not_isName {piece : String} (h : isName piece = false) (here : List String) :
    advance here piece = here := by
  rw [advance, h, if_neg Bool.false_ne_true]

/-- A name with `..` behind it leads back. -/
lemma advance_advance_dots {name : String} (hname : isName name = true) (hdots : name ≠ "..")
    (here : List String) : advance (advance here name) ".." = here := by
  have hdown : advance here name = here ++ [name] := by
    rw [advance, if_pos hname, if_neg hdots]
  have hup : advance (here ++ [name]) ".." = (here ++ [name]).dropLast := rfl
  rw [hdown, hup, List.dropLast_concat]

/-- Names that stay need not be walked. -/
lemma foldl_advance_filter (names here : List String) :
    (names.filter isName).foldl advance here = names.foldl advance here := by
  induction names generalizing here with
  | nil => rfl
  | cons name names ih =>
    cases hname : isName name with
    | true => rw [List.filter_cons_of_pos hname, List.foldl_cons, List.foldl_cons, ih]
    | false =>
      rw [List.filter_cons_of_neg (by rw [hname]; exact Bool.false_ne_true), List.foldl_cons,
        advance_of_not_isName hname, ih]

/-- At a root, a normal path grows as a walk goes on. -/
lemma reverse_normalStep {a : Anchor} (ha : a ≠ .relative) {acc : List String} {name : String}
    (hname : isName name = true) (hacc : ".." ∉ acc) :
    (normalStep a acc name).reverse = advance acc.reverse name := by
  rw [advance, if_pos hname]
  fun_cases normalStep a acc name with
  | case1 _ hrelative => exact absurd hrelative ha
  | case2 hdots => rw [if_pos hdots]; rfl
  | case3 => exact absurd (List.mem_cons_self ..) hacc
  | case4 hdots n ns => rw [if_pos hdots, List.reverse_cons, List.dropLast_concat]
  | case5 _ hdots => rw [if_neg hdots, List.reverse_cons]

lemma reverse_foldl_normalStep {a : Anchor} (ha : a ≠ .relative) {names acc : List String}
    (hnames : ∀ n ∈ names, isName n = true) (hacc : ".." ∉ acc) :
    (names.foldl (normalStep a) acc).reverse = names.foldl advance acc.reverse := by
  -- Along the way no `..` is kept, as there is always something to take away or the top.
  induction names generalizing acc with
  | nil => rfl
  | cons name names ih =>
    obtain ⟨hname, hrest⟩ := List.forall_mem_cons.1 hnames
    have hstep : ".." ∉ [name].foldl (normalStep a) acc := dots_not_mem_foldl_normalStep ha hacc
    rw [List.foldl_cons, List.foldl_nil] at hstep
    rw [List.foldl_cons, List.foldl_cons, ih hrest hstep, reverse_normalStep ha hname hacc]

/-- The names of a normal absolute path are those that a walk from the top comes to. -/
theorem names_normalize {p : Path} (hp : p.WellFormed) (absolute : p.isAbsolute = true) :
    p.normalize.names = p.names.foldl advance [] :=
  reverse_foldl_normalStep (bne_iff_ne.1 absolute) (fun n hn => (hp n hn).1) List.not_mem_nil

lemma foldl_advance_ofString (s : String) (here : List String) :
    (ofString s).names.foldl advance here = follow here s :=
  foldl_advance_filter (pieces s.toList) here

/-! ## Components -/

/-- What stands between the slashes of a spelling, after those it starts with. -/
def components (s : String) : List String :=
  let rest := s.toList.dropWhile (· == '/')
  if rest.isEmpty then [] else pieces rest

/-- An absolute path is spelled with slashes at its start and between its names only. -/
lemma components_text {p : Path} (hp : p.WellFormed) (absolute : p.isAbsolute = true) :
    components p.text = p.names ∧ p.text = p.anchor.text ++ String.intercalate "/" p.names := by
  have htext : p.text = p.anchor.text ++ String.intercalate "/" p.names := by
    rw [text]
    split
    · rename_i hanchor _
      rw [isAbsolute, hanchor] at absolute
      cases absolute
    · rfl
  refine ⟨?_, htext⟩
  have hslashes : (String.intercalate "/" p.names).toList.takeWhile (· == '/') = [] :=
    List.length_eq_zero_iff.1 hp.slashes_intercalate
  have hdrop : (String.intercalate "/" p.names).toList.dropWhile (· == '/') =
      (String.intercalate "/" p.names).toList := by
    have h := List.takeWhile_append_dropWhile (p := (· == '/'))
      (l := (String.intercalate "/" p.names).toList)
    rwa [hslashes, List.nil_append] at h
  have hrest : p.text.toList.dropWhile (· == '/') =
      (String.intercalate "/" p.names).toList := by
    have hanchor : ∀ c ∈ p.anchor.text.toList, (c == '/') = true := by
      cases p.anchor <;> simp [Anchor.text]
    rw [htext, String.toList_append, List.dropWhile_append_of_pos hanchor, hdrop]
  rw [components, hrest]
  by_cases hnil : p.names = []
  · rw [hnil]
    rfl
  · have hpieces := pieces_intercalate (fun n hn => (hp n hn).2) hnil
    have hne : (String.intercalate "/" p.names).toList ≠ [] := by
      intro hempty
      rw [hempty] at hpieces
      have hnames : p.names = [""] := hpieces.symm
      obtain ⟨hname, -⟩ := hp "" (hnames ▸ List.mem_singleton_self "")
      cases hname
    simp only [List.isEmpty_iff, if_neg hne]
    exact hpieces

/-! ## Spellings of one walk -/

/-- A text after which a piece begins. -/
def EndsPiece (front : String) : Prop :=
  front = "" ∨ front.endsWith "/" = true

/-- One spelling and another with something in it that leads nowhere else. -/
inductive Respelling : String → String → Prop where
  /-- A piece that stays. -/
  | here (front back : String) (ends : EndsPiece front) :
      Respelling (front ++ back) (front ++ "./" ++ back)
  /-- One slash more between two names. -/
  | doubled (front back : String) (ends : front.endsWith "/" = true) :
      Respelling (front ++ back) (front ++ "/" ++ back)
  /-- One slash more at the end. -/
  | trailing (s : String) : Respelling s (s ++ "/")
  /-- A name and the way back from it. -/
  | andBack (front name back : String) (ends : EndsPiece front) (isName : isName name = true)
      (down : name ≠ "..") (onePiece : '/' ∉ name.toList) :
      Respelling (front ++ back) (front ++ (name ++ "/../") ++ back)

/-- Relative spellings that come from each other by a chain of such changes, none of which makes an
absolute path. -/
def SameBut : String → String → Prop :=
  Relation.EqvGen fun p q =>
    isAbsoluteText p = false ∧ isAbsoluteText q = false ∧ Respelling p q

lemma follow_eq_of_toList {s : String} {as bs : List Char} (hs : s.toList = as ++ '/' :: bs)
    (here : List String) :
    follow here s = (pieces bs).foldl advance ((pieces as).foldl advance here) := by
  rw [follow, hs, pieces_append_cons, List.foldl_append]

/-- A slash at the end of a walk leads nowhere else. -/
lemma follow_eq_of_toList_concat {s : String} {as : List Char} (hs : s.toList = as ++ ['/'])
    (here : List String) : follow here s = (pieces as).foldl advance here :=
  follow_eq_of_toList hs here

/-- A walk goes on where another ends. -/
lemma follow_append {front : String} (ends : EndsPiece front) (here : List String)
    (back : String) : follow here (front ++ back) = follow (follow here front) back := by
  rcases ends with rfl | ends
  · rw [String.empty_append]
    rfl
  · obtain ⟨as, has⟩ := (endsWith_slash_iff front).1 ends
    have happend : (front ++ back).toList = as ++ '/' :: back.toList := by
      rw [String.toList_append, has, List.append_assoc, List.singleton_append]
    rw [follow_eq_of_toList happend, follow_eq_of_toList_concat has]
    rfl

lemma EndsPiece.append {front middle : String} (h : middle.endsWith "/" = true) :
    EndsPiece (front ++ middle) := by
  obtain ⟨cs, hcs⟩ := (endsWith_slash_iff middle).1 h
  refine .inr ((endsWith_slash_iff _).2 ⟨front.toList ++ cs, ?_⟩)
  rw [String.toList_append, hcs, List.append_assoc]

/-- What leads back to where it starts can stand between two parts of a walk. -/
lemma follow_insert {front middle : String} (ends : EndsPiece front)
    (hmiddle : middle.endsWith "/" = true) (here : List String)
    (returns : follow (follow here front) middle = follow here front) (back : String) :
    follow here (front ++ middle ++ back) = follow here (front ++ back) := by
  rw [follow_append (.append hmiddle), follow_append ends, returns, follow_append ends]

lemma endsWith_andBack (name : String) : (name ++ "/../").endsWith "/" = true :=
  (endsWith_slash_iff _).2 ⟨name.toList ++ ['/', '.', '.'], by simp [String.toList_append]⟩

/-- A name and the way back from it lead nowhere else. -/
lemma follow_andBack {name : String} (hname : isName name = true) (down : name ≠ "..")
    (onePiece : '/' ∉ name.toList) (here : List String) :
    follow here (name ++ "/../") = here := by
  have happend : (name ++ "/../").toList = name.toList ++ '/' :: ['.', '.', '/'] := by
    simp [String.toList_append]
  have hback : pieces ['.', '.', '/'] = ["..", ""] := by decide
  rw [follow_eq_of_toList happend, pieces_of_not_mem onePiece, String.ofList_toList, hback]
  exact advance_advance_dots hname down here

/-- Both spellings are the same walk. -/
theorem Respelling.follow_eq {p q : String} (h : Respelling p q) (here : List String) :
    follow here p = follow here q := by
  cases h with
  | here front back ends =>
    exact (follow_insert ends ((endsWith_slash_iff _).2 ⟨['.'], rfl⟩) here rfl back).symm
  | doubled front back ends =>
    exact (follow_insert (.inr ends) ((endsWith_slash_iff _).2 ⟨[], rfl⟩) here rfl back).symm
  | trailing =>
    have hconcat : (p ++ "/").toList = p.toList ++ ['/'] := String.toList_append ..
    exact (follow_eq_of_toList_concat hconcat here).symm
  | andBack front name back ends hname down onePiece =>
    exact (follow_insert ends (endsWith_andBack name) here
      (follow_andBack hname down onePiece _) back).symm

end Path

/-! ## Where issues lead -/

open ElmOnSave.Path

lemma issuePath_of_isAbsoluteText {file : String} (absolute : isAbsoluteText file = true)
    (root : Option String) : issuePath file root = file := by
  cases root with
  | none => rfl
  | some r => rw [issuePath, if_pos absolute]

section Root

variable {root : String} (absolute : isAbsoluteText root = true)

include absolute

/-- What a path of an issue leads to is not led on. -/
lemma issuePath_issuePath (file : String) :
    issuePath (issuePath file (some root)) (some root) = issuePath file (some root) := by
  refine issuePath_of_isAbsoluteText ?_ (some root)
  rw [isAbsoluteText_issuePath_eq, Option.any_some, absolute, Bool.or_true]

variable {file : String} (relative : isAbsoluteText file = false)

include relative

/-- A relative path leads below the root, to a path in normal form. -/
lemma exists_path_of_issuePath : ∃ p : Path, p.WellFormed ∧ p.anchor = anchorOf root.toList ∧
    p.isAbsolute = true ∧ p.names = follow (follow [] root) file ∧ ".." ∉ p.names ∧
    issuePath file (some root) = p.text := by
  have hfile : (ofString file).isAbsolute = false := by rw [isAbsolute_ofString, relative]
  have hroot : (ofString root).isAbsolute = true := by rw [isAbsolute_ofString, absolute]
  have hjoin : ofString (joinText root file) =
      ⟨anchorOf root.toList, (ofString root).names ++ (ofString file).names⟩ := by
    rw [ofString_joinText relative, join, hfile, if_neg Bool.false_ne_true]
    rfl
  have hjoined : (ofString (joinText root file)).isAbsolute = true := by
    rw [hjoin]
    exact hroot
  have hwell := wellFormed_ofString (joinText root file)
  refine ⟨(ofString (joinText root file)).normalize, hwell.normalize, by rw [hjoin]; rfl,
    hjoined, ?_, dots_not_mem_normalize hjoined, ?_⟩
  · rw [names_normalize hwell hjoined, hjoin, List.foldl_append, foldl_advance_ofString,
      foldl_advance_ofString]
  · rw [issuePath, relative, if_neg Bool.false_ne_true]
    rfl

/-- A relative path leads where the walk along it leads. -/
theorem issuePath_eq_follow : issuePath file (some root) =
    (anchorOf root.toList).text ++ String.intercalate "/" (follow (follow [] root) file) := by
  obtain ⟨p, hp, hanchor, habsolute, hnames, -, htext⟩ :=
    exists_path_of_issuePath absolute relative
  rw [htext, (components_text hp habsolute).2, hanchor, hnames]

/-- The components of where a relative path leads are names. -/
lemma components_issuePath :
    ∀ c ∈ components (issuePath file (some root)), c ≠ "" ∧ c ≠ "." ∧ c ≠ ".." := by
  obtain ⟨p, hp, -, habsolute, -, hdots, htext⟩ := exists_path_of_issuePath absolute relative
  rw [htext, (components_text hp habsolute).1]
  intro c hc
  have hname := (hp c hc).1
  refine ⟨?_, ?_, fun h => hdots (h ▸ hc)⟩ <;> rintro rfl <;> cases hname

omit relative in
/-- Every spelling of one walk leads to one location. -/
lemma issuePath_eq_of_sameBut {file' : String} (same : SameBut file file') :
    issuePath file (some root) = issuePath file' (some root) := by
  induction same with
  | rel p q h =>
    obtain ⟨hp, hq, respelled⟩ := h
    rw [issuePath_eq_follow absolute hp, issuePath_eq_follow absolute hq, respelled.follow_eq]
  | refl p => rfl
  | symm p q _ ih => exact ih.symm
  | trans p q r _ _ ihp ihq => exact ihp.trans ihq

end Root

/-- **Where the paths of issues lead.**  Seen from an absolute root, a relative path leads where the
walk along it leads below the root, spelled without empty components, `.` and `..`.  So the
spellings of one walk lead to one location, a location is not led on, and an absolute path is left
alone, whatever the root. -/
theorem issuePath_is_walk {root : String} (absolute : isAbsoluteText root = true) :
    (∀ file, isAbsoluteText file = false →
      isAbsoluteText (issuePath file (some root)) = true ∧
      (∀ c ∈ components (issuePath file (some root)), c ≠ "" ∧ c ≠ "." ∧ c ≠ "..") ∧
      issuePath file (some root) = (anchorOf root.toList).text ++
        String.intercalate "/" (follow (follow [] root) file)) ∧
    (∀ file file', SameBut file file' →
      issuePath file (some root) = issuePath file' (some root)) ∧
    (∀ file, issuePath (issuePath file (some root)) (some root) = issuePath file (some root)) ∧
    ∀ file root', isAbsoluteText file = true → issuePath file root' = file := by
  refine ⟨fun file relative => ⟨?_, components_issuePath absolute relative,
    issuePath_eq_follow absolute relative⟩,
    fun file file' same => issuePath_eq_of_sameBut absolute same,
    issuePath_issuePath absolute, fun file root' h => issuePath_of_isAbsoluteText h root'⟩
  rw [isAbsoluteText_issuePath_eq, Option.any_some, absolute, Bool.or_true]

/-- A step to the side and back, taken below a root, leads to the same source. -/
theorem detour_is_walk :
    isAbsoluteText "/app" = true ∧ isAbsoluteText "src/../src//Main.elm" = false ∧
      SameBut "src/Main.elm" "src/../src/Main.elm" ∧
      issuePath "src/Main.elm" (some "/app") = issuePath "src/../src/Main.elm" (some "/app") ∧
      issuePath "src/../src//Main.elm" (some "/app") = "/app/src/Main.elm" ∧
      issuePath "/app/src/Main.elm" none = "/app/src/Main.elm" := by
  have absolute : isAbsoluteText "/app" = true := by decide +kernel
  have relative : isAbsoluteText "src/../src//Main.elm" = false := by decide +kernel
  have same : SameBut "src/Main.elm" "src/../src/Main.elm" :=
    .rel _ _ ⟨by decide +kernel, by decide +kernel,
      .andBack "" "src" "src/Main.elm" (.inl rfl) (by decide) (by decide) (by decide)⟩
  obtain ⟨walks, spellings, -, stays⟩ := issuePath_is_walk absolute
  refine ⟨absolute, relative, same, spellings _ _ same, ?_, stays _ none (by decide +kernel)⟩
  rw [(walks _ relative).2.2]
  decide +kernel

end ElmOnSave
