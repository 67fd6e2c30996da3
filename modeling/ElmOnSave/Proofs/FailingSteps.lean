import Mathlib.Data.List.Forall2

/-!
# Steps that may fail

Reading a document, looking up a project and laying out a table are chains of steps, each of which
answers or fails.  A chain has an answer when all its steps have one (`bind_eq_ok_iff`), and fails
with the fault of the first that has none (`bind_eq_error_iff`).

The items of a list that are taken one by one are such a chain.  Its answer is a list of answers, one
for each item in their order, which is what `List.Forall₂` says (`mapM_eq_ok_iff`); its fault is
that of the first item that fails (`mapM_eq_error_iff`).  What holds of every step then holds of the
chain (`forall_mem_of_mapM`, `forall_error_of_mapM`).
-/

namespace ElmOnSave

/-! ## One step after another -/

section Chains

variable {α β ε δ : Type} {x : Except ε α}

lemma bind_eq_ok_iff {f : α → Except ε β} {b : β} :
    x.bind f = .ok b ↔ ∃ a, x = .ok a ∧ f a = .ok b := by
  cases x <;> simp [Except.bind]

lemma bind_eq_error_iff {f : α → Except ε β} {e : ε} :
    x.bind f = .error e ↔ x = .error e ∨ ∃ a, x = .ok a ∧ f a = .error e := by
  cases x <;> simp [Except.bind]

lemma map_eq_ok_iff {f : α → β} {b : β} : x.map f = .ok b ↔ ∃ a, x = .ok a ∧ f a = b := by
  cases x <;> simp [Except.map]

lemma map_eq_error_iff {f : α → β} {e : ε} : x.map f = .error e ↔ x = .error e := by
  cases x <;> simp [Except.map]

lemma mapError_eq_ok_iff {f : ε → δ} {a : α} : x.mapError f = .ok a ↔ x = .ok a := by
  cases x <;> simp [Except.mapError]

lemma mapError_eq_error_iff {f : ε → δ} {d : δ} :
    x.mapError f = .error d ↔ ∃ e, x = .error e ∧ f e = d := by
  cases x <;> simp [Except.mapError]

end Chains

/-! ## Lists that match -/

section Match

variable {α β : Type} {R : α → β → Prop} {as : List α} {bs : List β}

/-- A list has a list of counterparts when each of its members has one. -/
lemma exists_forall₂_iff : (∃ bs, List.Forall₂ R as bs) ↔ ∀ a ∈ as, ∃ b, R a b := by
  induction as with
  | nil => exact ⟨fun _ => List.forall_mem_nil _, fun _ => ⟨[], .nil⟩⟩
  | cons a as ih =>
    rw [List.forall_mem_cons, ← ih]
    constructor
    · rintro ⟨_, _ | ⟨hab, habs⟩⟩
      exact ⟨⟨_, hab⟩, _, habs⟩
    · rintro ⟨⟨b, hab⟩, bs, habs⟩
      exact ⟨b :: bs, .cons hab habs⟩

lemma exists_mem_right_of_forall₂ (h : List.Forall₂ R as bs) : ∀ a ∈ as, ∃ b ∈ bs, R a b := by
  induction h with
  | nil => exact List.forall_mem_nil _
  | cons hab _ ih =>
    refine List.forall_mem_cons.2 ⟨⟨_, List.mem_cons_self .., hab⟩, fun a ha => ?_⟩
    obtain ⟨b, hb, hab⟩ := ih a ha
    exact ⟨b, List.mem_cons_of_mem _ hb, hab⟩

lemma exists_mem_left_of_forall₂ (h : List.Forall₂ R as bs) : ∀ b ∈ bs, ∃ a ∈ as, R a b :=
  exists_mem_right_of_forall₂ h.flip

end Match

/-! ## Items one by one -/

section Items

variable {α β ε : Type} {f : α → Except ε β} {as : List α} {bs : List β}

lemma mapM_cons_eq (a : α) (as : List α) :
    (a :: as).mapM f = (f a).bind fun b => (as.mapM f).map (b :: ·) := by
  rw [List.mapM_cons]
  cases f a with
  | error e => rfl
  | ok b => cases as.mapM f <;> rfl

/-- Items have answers one by one when each of them has one. -/
lemma mapM_eq_ok_iff :
    as.mapM f = .ok bs ↔ List.Forall₂ (fun a b => f a = .ok b) as bs := by
  induction as generalizing bs with
  | nil =>
    rw [List.forall₂_nil_left_iff]
    exact ⟨fun h => (Except.ok.inj h).symm, fun h => h ▸ rfl⟩
  | cons a as ih =>
    simp only [mapM_cons_eq, bind_eq_ok_iff, map_eq_ok_iff, ih, List.forall₂_cons_left_iff]
    constructor
    · rintro ⟨b, hb, bs', hbs, rfl⟩
      exact ⟨b, bs', hb, hbs, rfl⟩
    · rintro ⟨b, bs', hb, hbs, rfl⟩
      exact ⟨b, hb, bs', hbs, rfl⟩

/-- The first of some items that fails. -/
lemma mapM_eq_error_iff {e : ε} :
    as.mapM f = .error e ↔ ∃ before a after, as = before ++ a :: after ∧
      (∀ b ∈ before, ∃ y, f b = .ok y) ∧ f a = .error e := by
  induction as with
  | nil => simp [pure, Except.pure]
  | cons a as ih =>
    rw [mapM_cons_eq, bind_eq_error_iff]
    simp only [map_eq_error_iff, ih]
    constructor
    · rintro (ha | ⟨y, ha, before, a', after, rfl, hbefore, hfails⟩)
      · exact ⟨[], a, as, rfl, List.forall_mem_nil _, ha⟩
      · exact ⟨a :: before, a', after, rfl, List.forall_mem_cons.2 ⟨⟨y, ha⟩, hbefore⟩, hfails⟩
    · rintro ⟨before, a', after, hsplit, hbefore, hfails⟩
      cases before with
      | nil =>
        obtain ⟨rfl, -⟩ := List.cons.inj hsplit
        exact .inl hfails
      | cons b before =>
        obtain ⟨rfl, rfl⟩ := List.cons.inj hsplit
        obtain ⟨⟨y, hy⟩, hbefore⟩ := List.forall_mem_cons.1 hbefore
        exact .inr ⟨y, hy, before, a', after, rfl, hbefore, hfails⟩

lemma mapM_eq_map {g : α → β} (h : ∀ a ∈ as, f a = .ok (g a)) : as.mapM f = .ok (as.map g) :=
  mapM_eq_ok_iff.2 (List.forall₂_map_right_iff.2 (List.forall₂_same.2 h))

lemma mapM_ok (h : ∀ a ∈ as, ∃ b, f a = .ok b) : ∃ bs, as.mapM f = .ok bs := by
  simpa only [mapM_eq_ok_iff] using exists_forall₂_iff.2 h

lemma mem_of_mapM_eq_ok (h : as.mapM f = .ok bs) {a : α} (ha : a ∈ as) :
    ∃ b ∈ bs, f a = .ok b :=
  exists_mem_right_of_forall₂ (mapM_eq_ok_iff.1 h) a ha

/-- What holds of the answer of every step holds of all answers. -/
lemma forall_mem_of_mapM {P : β → Prop} (hf : ∀ a ∈ as, ∀ b, f a = .ok b → P b)
    (h : as.mapM f = .ok bs) : ∀ b ∈ bs, P b := by
  intro b hb
  obtain ⟨a, ha, hab⟩ := exists_mem_left_of_forall₂ (mapM_eq_ok_iff.1 h) b hb
  exact hf a ha b hab

/-- What holds of the fault of every step holds of the fault of all. -/
lemma forall_error_of_mapM {Q : ε → Prop} (hf : ∀ a ∈ as, ∀ e, f a = .error e → Q e) {e : ε}
    (h : as.mapM f = .error e) : Q e := by
  obtain ⟨before, a, after, rfl, -, hfails⟩ := mapM_eq_error_iff.1 h
  exact hf a (List.mem_append_right _ (List.mem_cons_self ..)) e hfails

end Items

end ElmOnSave
