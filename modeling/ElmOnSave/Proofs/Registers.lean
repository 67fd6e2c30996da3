import Mathlib
import ElmOnSave.Register

/-!
# Registers as mappings

The entries of a register are what lookup finds (`Entries.get?_eq_some_iff`), so lookup does not
depend on their order (`Entries.get?_perm`), and the entries are told by the keys and what lookup
finds for them (`Register.entries_eq_map_keys`).  Two registers that are the same for lookup have
the same entries, in one order or another (`Register.entries_perm`).
-/

namespace ElmOnSave

namespace Entries

variable {κ ν : Type} [DecidableEq κ]

lemma put_of_not_mem {es : List (κ × ν)} {k : κ} (v : ν) (h : k ∉ keys es) :
    put es k v = es ++ [(k, v)] := by
  induction es with
  | nil => rfl
  | cons e es ih =>
    simp only [keys, List.map_cons, List.mem_cons, not_or] at h
    rw [put, if_neg (Ne.symm h.1), ih h.2, List.cons_append]

/-- Where no key occurs twice, the entries are what lookup finds. -/
lemma get?_eq_some_iff {es : List (κ × ν)} (h : (keys es).Nodup) {k : κ} {v : ν} :
    get? es k = some v ↔ (k, v) ∈ es := by
  induction es with
  | nil => simp [get?]
  | cons e es ih =>
    obtain ⟨k', v'⟩ := e
    rw [keys, List.map_cons, List.nodup_cons] at h
    by_cases hk : k' = k
    · subst hk
      have hnot : (k', v) ∉ es := fun hmem => h.1 (List.mem_map.2 ⟨_, hmem, rfl⟩)
      simp [get?, hnot, eq_comm]
    · simp [get?, hk, Ne.symm hk, ih h.2]

/-- The order of the entries does not matter to lookup. -/
lemma get?_perm {es es' : List (κ × ν)} (h : es.Perm es') (hes : (keys es).Nodup) (k : κ) :
    get? es k = get? es' k := by
  have hes' : (keys es').Nodup := (h.map Prod.fst).nodup_iff.1 hes
  refine Option.ext fun v => ?_
  rw [get?_eq_some_iff hes, get?_eq_some_iff hes']
  exact h.mem_iff

/-- Entries with different keys are what is left when they are written one after the other. -/
lemma ofList_eq_self {es : List (κ × ν)} (h : (keys es).Nodup) : ofList es = es := by
  induction es using List.reverseRecOn with
  | nil => rfl
  | append_singleton es e ih =>
    rw [keys, List.map_append, List.nodup_append] at h
    have hnot : e.1 ∉ keys es := fun hmem => h.2.2 _ hmem _ (List.mem_singleton_self _) rfl
    rw [ofList, List.foldl_concat, ← ofList, ih h.1, put_of_not_mem _ hnot]

lemma get?_map {μ : Type} (f : ν → μ) (es : List (κ × ν)) (k : κ) :
    get? (es.map fun e => (e.1, f e.2)) k = (get? es k).map f := by
  induction es with
  | nil => rfl
  | cons e es ih =>
    rw [List.map_cons, get?, get?]
    split
    · rfl
    · exact ih

end Entries

namespace Register

variable {κ ν : Type} [DecidableEq κ]

/-- An entry of lists is told by its key. -/
lemma entries_eq_map_keys {α : Type} (r : Register κ (List α)) :
    r.entries = r.keys.map fun k => (k, (r.get? k).getD []) := by
  have hentry : ∀ e ∈ r.entries, (e.1, (r.get? e.1).getD []) = e := by
    intro e he
    have hget : r.get? e.1 = some e.2 := (Entries.get?_eq_some_iff r.nodup).2 he
    rw [hget]
    rfl
  rw [keys, Entries.keys, List.map_map]
  exact (List.map_id _).symm.trans (List.map_congr_left fun e he => (hentry e he).symm)

/-- Registers that are the same mapping have the same entries. -/
lemma entries_perm {r s : Register κ ν} (h : ∀ k, r.get? k = s.get? k) :
    r.entries.Perm s.entries := by
  have hr : r.entries.Nodup := List.Nodup.of_map Prod.fst r.nodup
  have hs : s.entries.Nodup := List.Nodup.of_map Prod.fst s.nodup
  rw [List.perm_ext_iff_of_nodup hr hs]
  rintro ⟨k, v⟩
  rw [← Entries.get?_eq_some_iff r.nodup, ← Entries.get?_eq_some_iff s.nodup]
  exact iff_of_eq (congrArg (· = some v) (h k))

end Register

end ElmOnSave
