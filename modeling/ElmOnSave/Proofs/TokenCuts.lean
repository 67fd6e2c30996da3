import Mathlib.Data.List.Basic
import Mathlib.Data.List.Infix

/-!
# Texts cut at their tokens

A text is searched for tokens of one kind from left to right.  A token that is found is passed over
as a whole and the search goes on behind it, so the text is cut into its tokens and what stands
between them: a `Cutting`.

The search takes one of two steps, past a token that begins the text or else past one character, and
ends with the text.  An induction on these steps is `TokenKind.search_induction`.  It shows that every
text is cut (`TokenKind.exists_isCuttingOf`); that there is no other way to cut it
(`TokenKind.IsCuttingOf.unique`) comes from reading the first step off a cutting.  A function that
takes the same steps puts something in the place of each token and keeps all the rest
(`TokenKind.IsCuttingOf.eq_replaced`).
-/

namespace ElmOnSave

/-- A kind of tokens. -/
structure TokenKind (τ : Type) where
  /-- The characters of a token. -/
  written : τ → List Char
  /-- The token may end in front of the text. -/
  Ends : τ → List Char → Prop
  written_ne_nil : ∀ t, written t ≠ []
  /-- Two tokens do not begin at one place. -/
  unique : ∀ {t t' : τ} {rest rest' : List Char}, Ends t rest → Ends t' rest' →
    written t ++ rest = written t' ++ rest' → t = t'

/-- A text in pieces: tokens, each behind what stands in front of it, and what stands behind the
last. -/
inductive Cutting (τ : Type) where
  | last (gap : List Char)
  | token (gap : List Char) (t : τ) (rest : Cutting τ)

namespace Cutting

variable {τ : Type}

/-- The text with something in the place of each token. -/
def replaced (f : τ → List Char) : Cutting τ → List Char
  | last gap => gap
  | token gap t rest => gap ++ (f t ++ rest.replaced f)

/-- The text without its tokens. -/
def kept (c : Cutting τ) : List Char :=
  c.replaced fun _ => []

/-- The tokens in their order. -/
def tokens : Cutting τ → List τ
  | last _ => []
  | token _ t rest => t :: rest.tokens

/-- The pieces with one character more in front. -/
def cons (ch : Char) : Cutting τ → Cutting τ
  | last gap => last (ch :: gap)
  | token gap t rest => token (ch :: gap) t rest

variable {f g : τ → List Char}

@[simp] lemma replaced_last (gap : List Char) : (last gap : Cutting τ).replaced f = gap := rfl

@[simp] lemma replaced_token (gap : List Char) (t : τ) (c : Cutting τ) :
    (token gap t c).replaced f = gap ++ (f t ++ c.replaced f) := rfl

@[simp] lemma replaced_cons (ch : Char) (c : Cutting τ) :
    (c.cons ch).replaced f = ch :: c.replaced f := by
  cases c <;> rfl

@[simp] lemma kept_token (gap : List Char) (t : τ) (c : Cutting τ) :
    (token gap t c).kept = gap ++ c.kept := rfl

lemma kept_sublist_replaced (c : Cutting τ) : c.kept.Sublist (c.replaced f) := by
  induction c with
  | last gap => exact List.Sublist.refl gap
  | token gap t c ih =>
    rw [kept_token, replaced_token]
    exact (List.Sublist.refl gap).append (ih.trans (List.sublist_append_right (f t) _))

/-- What is put in the place of the tokens tells the text. -/
lemma replaced_congr {c : Cutting τ} (h : ∀ t ∈ c.tokens, f t = g t) :
    c.replaced f = c.replaced g := by
  induction c with
  | last gap => rfl
  | token gap t c ih =>
    obtain ⟨ht, hc⟩ := List.forall_mem_cons.1 h
    rw [replaced_token, replaced_token, ht, ih hc]

end Cutting

namespace TokenKind

variable {τ : Type} (K : TokenKind τ)

/-- A token begins the text. -/
def Begins (text : List Char) : Prop :=
  ∃ t rest, K.Ends t rest ∧ K.written t ++ rest = text

/-- No token begins in a stretch of the text, which goes on behind it. -/
def Skips (gap rest : List Char) : Prop :=
  ∀ back, back <:+ gap → back ≠ [] → ¬ K.Begins (back ++ rest)

/-- The text that is in pieces. -/
def text (c : Cutting τ) : List Char :=
  c.replaced K.written

/-- Each token is the first that begins at the end of the one before it or later, and none begins
behind the last. -/
def IsLeftmost : Cutting τ → Prop
  | .last gap => K.Skips gap []
  | .token gap t rest =>
    K.Skips gap (K.written t ++ K.text rest) ∧ K.Ends t (K.text rest) ∧ IsLeftmost rest

/-- A text is cut at its tokens. -/
structure IsCuttingOf (c : Cutting τ) (text : List Char) : Prop where
  text_eq : K.text c = text
  leftmost : K.IsLeftmost c

variable {K}

/-! ## The search -/

lemma not_begins_nil : ¬ K.Begins [] := by
  rintro ⟨t, rest, -, h⟩
  exact K.written_ne_nil t (List.append_eq_nil_iff.1 h).1

lemma skips_nil (rest : List Char) : K.Skips [] rest := by
  intro back hback hne
  exact absurd (List.suffix_nil.1 hback) hne

lemma skips_cons_iff {ch : Char} {gap rest : List Char} :
    K.Skips (ch :: gap) rest ↔ ¬ K.Begins (ch :: (gap ++ rest)) ∧ K.Skips gap rest := by
  constructor
  · intro h
    refine ⟨h (ch :: gap) List.suffix_rfl (List.cons_ne_nil ch gap), ?_⟩
    intro back hback
    exact h back (hback.trans (List.suffix_cons ch gap))
  · rintro ⟨hfirst, hgap⟩ back hback hne
    obtain rfl | hback := List.suffix_cons_iff.1 hback
    · exact hfirst
    · exact hgap back hback hne

/-- An induction on the steps of the search. -/
lemma search_induction {P : List Char → Prop} (nil : P [])
    (skip : ∀ ch rest, ¬ K.Begins (ch :: rest) → P rest → P (ch :: rest))
    (token : ∀ t rest, K.Ends t rest → P rest → P (K.written t ++ rest)) (text : List Char) :
    P text := by
  induction hlength : text.length using Nat.strong_induction_on generalizing text with
  | _ n ih =>
    subst hlength
    by_cases hbegins : K.Begins text
    · obtain ⟨t, rest, hends, rfl⟩ := hbegins
      have hpos : 0 < (K.written t).length := List.length_pos_iff.2 (K.written_ne_nil t)
      have hshorter : rest.length < (K.written t ++ rest).length := by
        rw [List.length_append]
        omega
      exact token t rest hends (ih _ hshorter rest rfl)
    · match text with
      | [] => exact nil
      | ch :: rest => exact skip ch rest hbegins (ih _ (Nat.lt_succ_self _) rest rfl)

/-! ## Cuttings -/

@[simp] lemma text_cons (ch : Char) (c : Cutting τ) : K.text (c.cons ch) = ch :: K.text c :=
  Cutting.replaced_cons ch c

@[simp] lemma text_last (gap : List Char) : K.text (.last gap) = gap := rfl

@[simp] lemma text_token (gap : List Char) (t : τ) (c : Cutting τ) :
    K.text (.token gap t c) = gap ++ (K.written t ++ K.text c) := rfl

lemma isLeftmost_cons_iff {ch : Char} {c : Cutting τ} :
    K.IsLeftmost (c.cons ch) ↔ ¬ K.Begins (ch :: K.text c) ∧ K.IsLeftmost c := by
  cases c with
  | last gap =>
    have hskips : K.Skips (ch :: gap) [] ↔ ¬ K.Begins (ch :: (gap ++ [])) ∧ K.Skips gap [] :=
      skips_cons_iff
    rw [List.append_nil] at hskips
    exact hskips
  | token gap t c =>
    rw [Cutting.cons, IsLeftmost, skips_cons_iff, and_assoc]
    rfl

/-- Every text is cut at its tokens. -/
lemma exists_isCuttingOf (K : TokenKind τ) (text : List Char) : ∃ c, K.IsCuttingOf c text := by
  induction text using search_induction (K := K) with
  | nil => exact ⟨.last [], rfl, skips_nil []⟩
  | skip ch rest hbegins ih =>
    obtain ⟨c, rfl, hc⟩ := ih
    exact ⟨c.cons ch, text_cons ch c, isLeftmost_cons_iff.2 ⟨hbegins, hc⟩⟩
  | token t rest hends ih =>
    obtain ⟨c, rfl, hc⟩ := ih
    exact ⟨.token [] t c, rfl, skips_nil _, hends, hc⟩

/-- The first step of the search is read off the pieces. -/
lemma IsLeftmost.cases {c : Cutting τ} (h : K.IsLeftmost c) :
    c = .last [] ∨
      (∃ ch rest, c = rest.cons ch ∧ ¬ K.Begins (K.text c) ∧ K.IsLeftmost rest) ∨
      ∃ t rest, c = .token [] t rest ∧ K.Ends t (K.text rest) ∧ K.IsLeftmost rest := by
  have hcons : ∀ ch rest, K.IsLeftmost (Cutting.cons ch rest) →
      ¬ K.Begins (K.text (rest.cons ch)) ∧ K.IsLeftmost rest := by
    intro ch rest hrest
    rw [text_cons]
    exact isLeftmost_cons_iff.1 hrest
  match c with
  | .last [] => exact .inl rfl
  | .last (ch :: gap) => exact .inr (.inl ⟨ch, .last gap, rfl, hcons ch (.last gap) h⟩)
  | .token [] t rest => exact .inr (.inr ⟨t, rest, rfl, h.2.1, h.2.2⟩)
  | .token (ch :: gap) t rest =>
    exact .inr (.inl ⟨ch, .token gap t rest, rfl, hcons ch (.token gap t rest) h⟩)

/-- Pieces of a text that a token begins start with it. -/
lemma IsCuttingOf.of_token {c : Cutting τ} {t : τ} {rest : List Char}
    (h : K.IsCuttingOf c (K.written t ++ rest)) (hends : K.Ends t rest) :
    ∃ c', c = .token [] t c' ∧ K.IsCuttingOf c' rest := by
  obtain ⟨htext, hc⟩ := h
  have hbegins : K.Begins (K.text c) := ⟨t, rest, hends, htext.symm⟩
  obtain rfl | ⟨ch, c', rfl, hnone, -⟩ | ⟨t', c', rfl, hends', hc'⟩ := hc.cases
  · exact absurd hbegins not_begins_nil
  · exact absurd hbegins hnone
  · rw [text_token, List.nil_append] at htext
    obtain rfl := K.unique hends' hends htext
    exact ⟨c', rfl, List.append_cancel_left htext, hc'⟩

/-- Pieces of a text that no token begins start with its first character. -/
lemma IsCuttingOf.of_skip {c : Cutting τ} {ch : Char} {rest : List Char}
    (h : K.IsCuttingOf c (ch :: rest)) (hbegins : ¬ K.Begins (ch :: rest)) :
    ∃ c', c = c'.cons ch ∧ K.IsCuttingOf c' rest := by
  obtain ⟨htext, hc⟩ := h
  obtain rfl | ⟨ch', c', rfl, -, hc'⟩ | ⟨t, c', rfl, hends, -⟩ := hc.cases
  · cases htext
  · rw [text_cons] at htext
    obtain ⟨rfl, hrest⟩ := List.cons.inj htext
    exact ⟨c', rfl, hrest, hc'⟩
  · exact absurd ⟨t, K.text c', hends, htext⟩ hbegins

lemma IsCuttingOf.of_nil {c : Cutting τ} (h : K.IsCuttingOf c []) : c = .last [] := by
  obtain ⟨htext, hc⟩ := h
  obtain rfl | ⟨ch, c', rfl, -, -⟩ | ⟨t, c', rfl, -, -⟩ := hc.cases
  · rfl
  · rw [text_cons] at htext
    cases htext
  · rw [text_token, List.nil_append] at htext
    exact absurd (List.append_eq_nil_iff.1 htext).1 (K.written_ne_nil t)

/-- There is one way at most to cut a text. -/
lemma IsCuttingOf.unique {c c' : Cutting τ} {text : List Char} (h : K.IsCuttingOf c text)
    (h' : K.IsCuttingOf c' text) : c = c' := by
  induction text using search_induction (K := K) generalizing c c' with
  | nil => rw [h.of_nil, h'.of_nil]
  | skip ch rest hbegins ih =>
    obtain ⟨d, rfl, hd⟩ := h.of_skip hbegins
    obtain ⟨d', rfl, hd'⟩ := h'.of_skip hbegins
    rw [ih hd hd']
  | token t rest hends ih =>
    obtain ⟨d, rfl, hd⟩ := h.of_token hends
    obtain ⟨d', rfl, hd'⟩ := h'.of_token hends
    rw [ih hd hd']

lemma IsCuttingOf.iff_eq {c : Cutting τ} {text : List Char} (h : K.IsCuttingOf c text)
    (c' : Cutting τ) : K.IsCuttingOf c' text ↔ c' = c :=
  ⟨fun h' => h'.unique h, fun heq => heq ▸ h⟩

/-- What takes the steps of the search keeps a text, with something in the place of each token. -/
lemma IsCuttingOf.eq_replaced {F : List Char → List Char} {f : τ → List Char} (nil : F [] = [])
    (skip : ∀ ch rest, ¬ K.Begins (ch :: rest) → F (ch :: rest) = ch :: F rest)
    (token : ∀ t rest, K.Ends t rest → F (K.written t ++ rest) = f t ++ F rest)
    {c : Cutting τ} {text : List Char} (h : K.IsCuttingOf c text) : F text = c.replaced f := by
  induction text using search_induction (K := K) generalizing c with
  | nil => rw [nil, h.of_nil, Cutting.replaced_last]
  | skip ch rest hbegins ih =>
    obtain ⟨d, rfl, hd⟩ := h.of_skip hbegins
    rw [skip ch rest hbegins, ih hd, Cutting.replaced_cons]
  | token t rest hends ih =>
    obtain ⟨d, rfl, hd⟩ := h.of_token hends
    rw [token t rest hends, ih hd, Cutting.replaced_token, List.nil_append]

end TokenKind

end ElmOnSave
